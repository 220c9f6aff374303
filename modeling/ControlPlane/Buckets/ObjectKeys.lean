import ControlPlane.Buckets.KeyText

/-! The keys of a listing document. A document is markup: tags and escaped characters. -/

namespace ControlPlane.Buckets

open ControlPlane.Library

-----------------------------------------------------------------------------------------
-- Reading
-----------------------------------------------------------------------------------------

/-- A tag, as it stands in a document. -/
def tagText (inside : List Char) : List Char :=
  '<' :: (inside ++ ['>'])

/-- What lies between the tags of a name, match after match. A match ends at the first closing tag.
-/
def matchAll (name : List Char) : Nat → List Char → List (List Char)
  | 0, _ => []
  | fuel + 1, xml =>
      match cutAt (tagText name) xml with
      | none => []
      | some (_, opened) =>
          match cutAt (tagText ('/' :: name)) opened with
          | none => []
          | some (inner, rest) => inner :: matchAll name fuel rest

/-- Every match takes characters, so there are not more of them than characters. -/
def extractRaw (xml name : List Char) : List (List Char) :=
  matchAll name xml.length xml

def extractAll (xml name : List Char) : List (List Char) :=
  (extractRaw xml name).map xmlUnescape

def contentsTag : List Char := ['C', 'o', 'n', 't', 'e', 'n', 't', 's']

def keyTag : List Char := ['K', 'e', 'y']

/-- The keys of the contents only: a common prefix is not an object. -/
def contentsKeys (xml : List Char) : List (List Char) :=
  (extractRaw xml contentsTag).flatMap fun block => extractAll block keyTag

-----------------------------------------------------------------------------------------
-- Markup
-----------------------------------------------------------------------------------------

/-- A piece of a document. A tag has no angle bracket inside. -/
inductive Piece
  | tag (inside : List Char) (formed : '<' ∉ inside ∧ '>' ∉ inside)
  | char (atom : Atom)
  deriving DecidableEq

def Piece.text : Piece → List Char
  | .tag inside _ => tagText inside
  | .char atom => atom.text

def markup (pieces : List Piece) : List Char :=
  pieces.flatMap Piece.text

/-- The inside of a tag. -/
def Piece.inside? : Piece → Option (List Char)
  | .tag inside _ => some inside
  | .char _ => none

/-- No piece is the tag. -/
def Without (inside : List Char) (pieces : List Piece) : Prop :=
  ∀ piece ∈ pieces, piece.inside? ≠ some inside

instance (inside : List Char) (pieces : List Piece) : Decidable (Without inside pieces) :=
  inferInstanceAs (Decidable (∀ piece ∈ pieces, piece.inside? ≠ some inside))

/-- An object in a listing: what comes before its element (common prefixes too), then the element,
with its key among other elements.
-/
structure ListedObject where
  gap : List Piece
  before : List Piece
  key : List Atom
  after : List Piece
  gap_without : Without contentsTag gap
  before_without : Without keyTag before ∧ Without ('/' :: contentsTag) before
  after_without : Without keyTag after ∧ Without ('/' :: contentsTag) after

/-- A listing document, with what comes after the last object. -/
structure ListingDocument where
  objects : List ListedObject
  rest : List Piece
  rest_without : Without contentsTag rest

/-- The key that is meant. -/
def ListedObject.name (object : ListedObject) : List Char :=
  object.key.map Atom.meaning

/-- What stands inside the element of an object. -/
def ListedObject.block (object : ListedObject) : List Piece :=
  object.before ++ .tag keyTag (by decide) :: object.key.map .char
    ++ .tag ('/' :: keyTag) (by decide) :: object.after

def ListedObject.text (object : ListedObject) : List Char :=
  markup object.gap ++ tagText contentsTag ++ markup object.block
    ++ tagText ('/' :: contentsTag)

def ListingDocument.text (document : ListingDocument) : List Char :=
  document.objects.flatMap ListedObject.text ++ markup document.rest

def ListingDocument.keys (document : ListingDocument) : List (List Char) :=
  document.objects.map ListedObject.name

-----------------------------------------------------------------------------------------
-- Cutting markup
-----------------------------------------------------------------------------------------

theorem bracket_not_mem_text (atom : Atom) : '<' ∉ atom.text := by
  cases atom with
  | plain c escaped => simpa [Atom.text] using escaped.2.symm
  | reference entity => cases entity <;> decide

/-- Two tags of which one begins the other's text are one: the first `>` ends both. -/
theorem eq_of_begins {name inside : List Char} (name_formed : '>' ∉ name)
    (formed : '>' ∉ inside) {rest : List Char}
    (begins : name ++ ['>'] <+: inside ++ '>' :: rest)
    : name = inside := by
  induction name generalizing inside with
  | nil =>
      cases inside with
      | nil => rfl
      | cons c inside =>
          have same : '>' = c := (List.cons_prefix_cons.mp begins).1
          exact absurd (same ▸ List.mem_cons_self) formed
  | cons c name ih =>
      simp only [List.mem_cons, not_or] at name_formed
      cases inside with
      | nil =>
          have same : c = '>' := (List.cons_prefix_cons.mp begins).1
          exact absurd same.symm name_formed.1
      | cons other inside =>
          simp only [List.mem_cons, not_or] at formed
          obtain ⟨rfl, later⟩ := List.cons_prefix_cons.mp begins
          rw [ih name_formed.2 formed.2 later]

theorem tagText_not_begins {name inside : List Char} (name_formed : '>' ∉ name)
    (formed : '>' ∉ inside) (apart : inside ≠ name) (rest : List Char)
    : (tagText name).isPrefixOf (tagText inside ++ rest) = false := by
  rw [Bool.eq_false_iff]
  intro begins
  have front := List.isPrefixOf_iff_prefix.mp begins
  rw [tagText, tagText, List.cons_append, List.append_assoc] at front
  exact apart (eq_of_begins name_formed formed (List.cons_prefix_cons.mp front).2).symm

/-- Another tag lies before the cut: past its first character no tag can begin. -/
theorem cutAt_tag {name inside : List Char} (name_formed : '>' ∉ name)
    (formed : '<' ∉ inside ∧ '>' ∉ inside) (apart : inside ≠ name) (rest : List Char)
    : cutAt (tagText name) (tagText inside ++ rest)
      = (cutAt (tagText name) rest).map fun cut => (tagText inside ++ cut.1, cut.2) := by
  have front : (tagText name).isPrefixOf ('<' :: (inside ++ ['>'] ++ rest)) = false :=
    tagText_not_begins name_formed formed.2 apart rest
  have inner : '<' ∉ inside ++ ['>'] := by simp [formed.1]
  have later := cutAt_append inner (name ++ ['>']) rest
  have opened : tagText inside ++ rest = '<' :: (inside ++ ['>'] ++ rest) := rfl
  rw [← tagText] at later
  rw [opened, cutAt, front, later]
  simp [tagText, Function.comp_def]

/-- Markup without a tag lies before the cut, by induction on its pieces. -/
theorem cutAt_markup {name : List Char} (name_formed : '>' ∉ name) {pieces : List Piece}
    (without : Without name pieces) (rest : List Char)
    : cutAt (tagText name) (markup pieces ++ rest)
      = (cutAt (tagText name) rest).map fun cut => (markup pieces ++ cut.1, cut.2) := by
  induction pieces with
  | nil => simp [markup]
  | cons piece pieces ih =>
      have later := ih fun other listed => without other (List.mem_cons_of_mem _ listed)
      have split : markup (piece :: pieces) = piece.text ++ markup pieces := List.flatMap_cons
      rw [split, List.append_assoc]
      cases piece with
      | char atom =>
          rw [Piece.text, tagText, cutAt_append (bracket_not_mem_text atom), ← tagText, later]
          simp [Function.comp_def]
      | tag inside formed =>
          have apart : inside ≠ name := fun same =>
            without _ List.mem_cons_self (congrArg some same)
          rw [Piece.text, cutAt_tag name_formed formed apart, later]
          simp [Function.comp_def]

theorem cutAt_tagText (name rest : List Char)
    : cutAt (tagText name) (tagText name ++ rest) = some ([], rest) :=
  cutAt_pattern '<' (name ++ ['>']) rest

-----------------------------------------------------------------------------------------
-- Matches
-----------------------------------------------------------------------------------------

/-- An element without further elements of its name, and what comes before it. -/
def elementText (name : List Char) (element : List Piece × List Piece) : List Char :=
  markup element.1 ++ tagText name ++ markup element.2 ++ tagText ('/' :: name)

theorem matchAll_without {name : List Char} (name_formed : '>' ∉ name) {pieces : List Piece}
    (without : Without name pieces) (fuel : Nat)
    : matchAll name fuel (markup pieces) = [] := by
  have absent := cutAt_markup name_formed without []
  rw [List.append_nil] at absent
  cases fuel with
  | zero => rfl
  | succ fuel => rw [matchAll, absent]; rfl

/-- The first match is the first element. -/
theorem matchAll_element {name : List Char} (name_formed : '>' ∉ name)
    {element : List Piece × List Piece} (before : Without name element.1)
    (inside : Without ('/' :: name) element.2) (fuel : Nat) (rest : List Char)
    : matchAll name (fuel + 1) (elementText name element ++ rest)
      = markup element.2 :: matchAll name fuel rest := by
  have closing_formed : '>' ∉ '/' :: name := by simp [name_formed]
  simp only [matchAll, elementText, List.append_assoc, cutAt_markup name_formed before,
    cutAt_tagText, cutAt_markup closing_formed inside, Option.map_some, List.append_nil]

/-- The matches are the elements, by induction on them, as long as the fuel lasts. -/
theorem matchAll_elements {name : List Char} (name_formed : '>' ∉ name)
    {elements : List (List Piece × List Piece)} {after : List Piece}
    (before : ∀ element ∈ elements, Without name element.1)
    (inside : ∀ element ∈ elements, Without ('/' :: name) element.2)
    (behind : Without name after) {fuel : Nat} (enough : elements.length ≤ fuel)
    : matchAll name fuel (elements.flatMap (elementText name) ++ markup after)
      = elements.map fun element => markup element.2 := by
  induction elements generalizing fuel with
  | nil => exact matchAll_without name_formed behind fuel
  | cons element elements ih =>
      obtain ⟨fuel, rfl⟩ := Nat.exists_eq_add_of_le' (Nat.le_trans (Nat.le_add_left 1 _) enough)
      have later :=
        ih (fun other listed => before other (List.mem_cons_of_mem _ listed))
          (fun other listed => inside other (List.mem_cons_of_mem _ listed))
          (Nat.le_of_succ_le_succ enough)
      rw [List.flatMap_cons, List.append_assoc,
        matchAll_element name_formed (before _ List.mem_cons_self)
          (inside _ List.mem_cons_self),
        later, List.map_cons]

theorem length_le_elements (name : List Char) (elements : List (List Piece × List Piece))
    : elements.length ≤ (elements.flatMap (elementText name)).length := by
  induction elements with
  | nil => exact Nat.le_refl 0
  | cons element elements ih =>
      simp only [List.flatMap_cons, List.length_append, List.length_cons, elementText, tagText]
        at ih ⊢
      omega

theorem extractRaw_elements {name : List Char} (name_formed : '>' ∉ name)
    {elements : List (List Piece × List Piece)} {after : List Piece}
    (before : ∀ element ∈ elements, Without name element.1)
    (inside : ∀ element ∈ elements, Without ('/' :: name) element.2)
    (behind : Without name after)
    : extractRaw (elements.flatMap (elementText name) ++ markup after) name
      = elements.map fun element => markup element.2 := by
  apply matchAll_elements name_formed before inside behind
  have enough := length_le_elements name elements
  rw [List.length_append]
  omega

-----------------------------------------------------------------------------------------
-- Listings
-----------------------------------------------------------------------------------------

theorem without_chars (inside : List Char) (atoms : List Atom)
    : Without inside (atoms.map .char) := by
  intro piece listed
  obtain ⟨atom, -, rfl⟩ := List.mem_map.mp listed
  exact (Option.some_ne_none inside).symm

theorem markup_chars (atoms : List Atom)
    : markup (atoms.map .char) = atoms.flatMap Atom.text := by
  rw [markup, List.flatMap_map]
  rfl

/-- The element of an object ends at its own closing tag. -/
theorem block_without (object : ListedObject)
    : Without ('/' :: contentsTag) object.block := by
  intro piece listed
  simp only [ListedObject.block, List.append_assoc, List.cons_append, List.mem_append,
    List.mem_cons] at listed
  obtain before | rfl | key | rfl | after := listed
  · exact object.before_without.2 piece before
  · decide
  · exact without_chars _ _ piece key
  · decide
  · exact object.after_without.2 piece after

/-- An object has one key, the one that is meant. -/
theorem extractAll_block (object : ListedObject)
    : extractAll (markup object.block) keyTag = [object.name] := by
  have keyed :
      extractRaw ([(object.before, object.key.map Piece.char)].flatMap (elementText keyTag)
          ++ markup object.after) keyTag
        = [markup (object.key.map Piece.char)] :=
    extractRaw_elements (by decide)
      (fun element only => List.mem_singleton.mp only ▸ object.before_without.1)
      (fun element only => List.mem_singleton.mp only ▸ without_chars _ _)
      object.after_without.1
  have text :
      markup object.block
        = [(object.before, object.key.map Piece.char)].flatMap (elementText keyTag)
          ++ markup object.after := by
    simp [ListedObject.block, elementText, markup, Piece.text]
  rw [extractAll, text, keyed, List.map_singleton, markup_chars, xmlUnescape_text]
  rfl

/-- The keys of a listing are those of its objects, in their order. -/
theorem contentsKeys_text (document : ListingDocument)
    : contentsKeys document.text = document.keys := by
  let element (object : ListedObject) : List Piece × List Piece := (object.gap, object.block)
  have blocks :
      extractRaw
          ((document.objects.map element).flatMap (elementText contentsTag)
            ++ markup document.rest)
          contentsTag
        = (document.objects.map element).map fun element => markup element.2 := by
    apply extractRaw_elements (by decide) _ _ document.rest_without
    · intro listed mapped
      obtain ⟨object, -, rfl⟩ := List.mem_map.mp mapped
      exact object.gap_without
    · intro listed mapped
      obtain ⟨object, -, rfl⟩ := List.mem_map.mp mapped
      exact block_without object
  rw [List.flatMap_map, List.map_map] at blocks
  rw [contentsKeys, ListingDocument.text, ListingDocument.keys]
  have text : ListedObject.text = fun object => elementText contentsTag (element object) := rfl
  rw [text, blocks, List.flatMap_map, List.map_eq_flatMap]
  exact List.flatMap_congr fun object _ => extractAll_block object

end ControlPlane.Buckets
