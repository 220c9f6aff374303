import ControlPlane.Buckets.ObjectKeys

/-! The body of a delete request, and the objects that it names. -/

namespace ControlPlane.Buckets

open ControlPlane.Library
open ControlPlane.Library.Xml

def bodyOpening : List Char :=
  "<?xml version=\"1.0\" encoding=\"UTF-8\"?><Delete><Quiet>true</Quiet>".toList

def objectOpening : List Char := "<Object><Key>".toList

def objectClosing : List Char := "</Key></Object>".toList

def bodyClosing : List Char := "</Delete>".toList

/-- The body that deletes the keys of a listing. -/
def deleteBody (keys : List (List Char)) : List Char :=
  bodyOpening ++ keys.flatMap (fun k => objectOpening ++ xmlEscape k ++ objectClosing)
    ++ bodyClosing

-----------------------------------------------------------------------------------------
-- What a body names
-----------------------------------------------------------------------------------------

def declaration : List Char := "?xml version=\"1.0\" encoding=\"UTF-8\"?".toList

def deleteTag : List Char := "Delete".toList

def quietTag : List Char := "Quiet".toList

def objectTag : List Char := "Object".toList

/-- The keys of the objects to delete, as the nodes of a body name them. -/
def namedKeys (body : List Node) : List (List Char) :=
  let requests := (body.filterMap (Node.named? deleteTag)).flatten
  let objects := (requests.filterMap (Node.named? objectTag)).flatten
  (objects.filterMap (Node.named? keyTag)).map textOf

/-- The keys that a body names, where it is XML. -/
def deleteKeys (body : List Char) : Option (List (List Char)) :=
  (parse body).map namedKeys

-----------------------------------------------------------------------------------------
-- Tokens
-----------------------------------------------------------------------------------------

theorem bodyOpening_eq
    : bodyOpening
      = tagText declaration ++ tagText deleteTag ++ tagText quietTag ++ xmlEscape "true".toList
        ++ tagText ('/' :: quietTag) := by
  rfl

theorem objectOpening_eq : objectOpening = tagText objectTag ++ tagText keyTag := by
  decide

theorem objectClosing_eq
    : objectClosing = tagText ('/' :: keyTag) ++ tagText ('/' :: objectTag) := by
  decide

theorem bodyClosing_eq : bodyClosing = tagText ('/' :: deleteTag) ++ [] := by
  decide

theorem declaration_formed : '<' ∉ declaration ∧ '>' ∉ declaration := by
  decide

theorem scan_atom (atom : Atom) (rest : List Char)
    : scan .content (atom.text ++ rest)
      = (scan .content rest).map (.char atom.meaning :: ·) := by
  cases atom with
  | plain c escaped => exact scan_char escaped rest
  | reference entity => cases entity <;> rfl

/-- A key is read back as it was before the escaping. -/
theorem scan_xmlEscape (key rest : List Char)
    : scan .content (xmlEscape key ++ rest)
      = (scan .content rest).map (key.map Token.char ++ ·) := by
  induction key with
  | nil => simp [xmlEscape_eq]
  | cons c key ih =>
      rw [xmlEscape_cons, List.append_assoc, scan_atom, ih, meaning_atomOf, Option.map_map]
      rfl

theorem scan_tagText {inside : List Char} (formed : '<' ∉ inside ∧ '>' ∉ inside)
    (rest : List Char)
    : scan .content (tagText inside ++ rest) = (scan .content rest).map (.tag inside :: ·) := by
  rw [tagText, List.cons_append, List.append_assoc]
  exact scan_tag formed rest

def objectTokens (key : List Char) : List Token :=
  .tag objectTag :: .tag keyTag :: key.map .char
    ++ [.tag ('/' :: keyTag), .tag ('/' :: objectTag)]

theorem scan_object (key rest : List Char)
    : scan .content (objectOpening ++ xmlEscape key ++ objectClosing ++ rest)
      = (scan .content rest).map (objectTokens key ++ ·) := by
  rw [objectOpening_eq, objectClosing_eq]
  simp only [List.append_assoc]
  rw [scan_tagText (by decide), scan_tagText (by decide), scan_xmlEscape,
    scan_tagText (by decide), scan_tagText (by decide)]
  simp [objectTokens, Function.comp_def]

/-- The tokens of the objects, by induction on their keys. -/
theorem scan_objects (keys : List (List Char)) (rest : List Char)
    : scan .content
        (keys.flatMap (fun k => objectOpening ++ xmlEscape k ++ objectClosing) ++ rest)
      = (scan .content rest).map (keys.flatMap objectTokens ++ ·) := by
  induction keys with
  | nil => simp
  | cons key keys ih =>
      rw [List.flatMap_cons, List.append_assoc, scan_object, ih, List.flatMap_cons]
      simp [Function.comp_def]

def bodyTokens (keys : List (List Char)) : List Token :=
  .tag declaration :: .tag deleteTag :: .tag quietTag :: "true".toList.map .char
    ++ .tag ('/' :: quietTag) :: (keys.flatMap objectTokens ++ [.tag ('/' :: deleteTag)])

theorem scan_deleteBody (keys : List (List Char))
    : scan .content (deleteBody keys) = some (bodyTokens keys) := by
  have opening (rest : List Char)
      : scan .content (bodyOpening ++ rest)
        = (scan .content rest).map fun tokens =>
            .tag declaration :: .tag deleteTag :: .tag quietTag :: "true".toList.map .char
              ++ .tag ('/' :: quietTag) :: tokens := by
    rw [bodyOpening_eq]
    simp only [List.append_assoc]
    rw [scan_tagText declaration_formed, scan_tagText (by decide), scan_tagText (by decide),
      scan_xmlEscape, scan_tagText (by decide)]
    simp [Function.comp_def]
  have closing : scan .content bodyClosing = some [.tag ('/' :: deleteTag)] := by
    rw [bodyClosing_eq, scan_tagText (by decide)]
    rfl
  rw [deleteBody, List.append_assoc, opening, scan_objects, closing]
  rfl

-----------------------------------------------------------------------------------------
-- Nodes
-----------------------------------------------------------------------------------------

def objectNode (key : List Char) : Node :=
  .element objectTag [.element keyTag (key.map .char)]

/-- An object becomes a child of the element that is open. -/
theorem build_object (key : List Char) (stack : List (List Char × List Node)) (done : List Node)
    (rest : List Token)
    : build stack done (objectTokens key ++ rest) = build stack (objectNode key :: done) rest := by
  rw [objectTokens, List.append_assoc, List.cons_append, List.cons_append,
    build_open (by decide), build_open (by decide), build_chars, List.append_nil,
    List.cons_append, List.cons_append, List.nil_append, build_close, build_close,
    List.reverse_reverse]
  rfl

theorem build_objects (keys : List (List Char)) (stack : List (List Char × List Node))
    (done : List Node) (rest : List Token)
    : build stack done (keys.flatMap objectTokens ++ rest)
      = build stack ((keys.map objectNode).reverse ++ done) rest := by
  induction keys generalizing done with
  | nil => rfl
  | cons key keys ih =>
      rw [List.flatMap_cons, List.append_assoc, build_object, ih, List.map_cons,
        List.reverse_cons, List.append_assoc]
      rfl

/-- A body is one element, with its objects in their order. -/
theorem build_deleteBody (keys : List (List Char))
    : build [] [] (bodyTokens keys)
      = some
          [.element deleteTag
            (.element quietTag ("true".toList.map .char) :: keys.map objectNode)] := by
  have instruction (later : List Token)
      : build [] [] (.tag declaration :: later) = build [] [] later := by
    rfl
  rw [bodyTokens, List.cons_append, List.cons_append, List.cons_append, instruction,
    build_open (by decide), build_open (by decide), build_chars, build_close, build_objects,
    build_close]
  simp only [List.append_nil, List.reverse_append, List.reverse_reverse]
  rfl

/-- The objects of a body name its keys, by induction on them. -/
theorem keys_objects (keys : List (List Char))
    : ((((keys.map objectNode).filterMap (Node.named? objectTag)).flatten).filterMap
          (Node.named? keyTag)).map textOf
      = keys := by
  induction keys with
  | nil => rfl
  | cons key keys ih =>
      simp only [List.map_cons, List.filterMap_cons, objectNode, Node.named?, if_true,
        List.flatten_cons, List.cons_append, List.nil_append, textOf_chars]
      exact congrArg (key :: ·) ih

theorem namedKeys_deleteBody (keys : List (List Char))
    : namedKeys
        [.element deleteTag
          (.element quietTag ("true".toList.map .char) :: keys.map objectNode)]
      = keys := by
  have quiet : ¬quietTag = objectTag := by decide
  rw [namedKeys]
  simp only [List.filterMap_cons, List.filterMap_nil, Node.named?, if_true, quiet, if_false,
    List.flatten_cons, List.flatten_nil, List.append_nil]
  exact keys_objects keys

-----------------------------------------------------------------------------------------
-- Characters and line ends
-----------------------------------------------------------------------------------------

/-- Escaping keeps a text within the characters of XML, or outside of them. -/
theorem all_isChar_xmlEscape (key : List Char)
    : (xmlEscape key).all isChar = key.all isChar := by
  have one (c : Char) : (atomOf c).text.all isChar = isChar c := by
    simp only [atomOf]
    split_ifs <;> simp_all [Atom.text, Entity.name, isChar]
  induction key with
  | nil => rfl
  | cons c key ih => rw [xmlEscape_cons, List.all_append, one, ih, List.all_cons]

theorem all_isChar_deleteBody (keys : List (List Char))
    : (deleteBody keys).all isChar = keys.all fun key => key.all isChar := by
  have opening : bodyOpening.all isChar = true := by rfl
  have closing : bodyClosing.all isChar = true := by decide
  have object : objectOpening.all isChar = true ∧ objectClosing.all isChar = true := by decide
  rw [deleteBody, List.all_append, List.all_append, opening, closing, Bool.true_and, Bool.and_true]
  induction keys with
  | nil => rfl
  | cons key keys ih =>
      rw [List.flatMap_cons, List.all_append, ih, List.all_append, List.all_append, object.1,
        object.2, all_isChar_xmlEscape, Bool.true_and, Bool.and_true, List.all_cons]

theorem return_not_mem_text {c : Char} (visible : c ≠ '\r') : '\r' ∉ (atomOf c).text := by
  simp only [atomOf]
  split_ifs <;> simp_all [Atom.text, Entity.name, Ne.symm]

theorem xmlEscape_nil : xmlEscape [] = [] := by
  rw [xmlEscape_eq, List.flatMap_nil]

/-- Escaping makes no line feed at the front. -/
theorem feed_not_begins {key : List Char} (apart : ∀ rest, key ≠ '\n' :: rest)
    (behind tail : List Char)
    : xmlEscape key ++ '<' :: behind ≠ '\n' :: tail := by
  intro same
  have front := congrArg List.head? same
  cases key with
  | nil => simp [xmlEscape_nil] at front
  | cons c rest =>
      have visible : c ≠ '\n' := fun isFeed => apart rest (isFeed ▸ rfl)
      rw [xmlEscape_cons, atomOf] at front
      split_ifs at front <;> simp_all [Atom.text]

/-- The line ends of an escaped key are those of the key, by induction on it, two characters at a
time. What comes after the key is a tag.
-/
theorem normalizeEol_xmlEscape (key behind : List Char)
    : normalizeEol (xmlEscape key ++ '<' :: behind)
      = xmlEscape (normalizeEol key) ++ normalizeEol ('<' :: behind) := by
  have feed : (atomOf '\n').text = ['\n'] := by decide
  have back : (atomOf '\r').text = ['\r'] := by decide
  induction key using normalizeEol.induct with
  | case1 => simp [normalizeEol, xmlEscape_nil]
  | case2 rest ih =>
      have text :
          xmlEscape ('\r' :: '\n' :: rest) ++ '<' :: behind
            = '\r' :: '\n' :: (xmlEscape rest ++ '<' :: behind) := by
        rw [xmlEscape_cons, xmlEscape_cons, feed, back]
        rfl
      rw [text, normalizeEol_pair, normalizeEol_pair, ih, xmlEscape_cons, feed]
      rfl
  | case3 rest apart ih =>
      have text :
          xmlEscape ('\r' :: rest) ++ '<' :: behind
            = '\r' :: (xmlEscape rest ++ '<' :: behind) := by
        rw [xmlEscape_cons, back]
        rfl
      have kept := feed_not_begins apart behind
      rw [text, normalizeEol_return kept, normalizeEol_return apart, ih, xmlEscape_cons, feed]
      rfl
  | case4 c rest notPair notReturn ih =>
      have visible : c ≠ '\r' := notReturn
      rw [xmlEscape_cons, List.append_assoc, normalizeEol_append (return_not_mem_text visible), ih,
        normalizeEol_cons visible, xmlEscape_cons, List.append_assoc]

theorem normalizeEol_object (key more : List Char)
    : normalizeEol (objectOpening ++ xmlEscape key ++ objectClosing ++ more)
      = objectOpening ++ xmlEscape (normalizeEol key) ++ objectClosing ++ normalizeEol more := by
  have opening : '\r' ∉ objectOpening := by decide
  have closing : '\r' ∉ objectClosing := by decide
  have closed : objectClosing ++ more = '<' :: (objectClosing.tail ++ more) := rfl
  simp only [List.append_assoc]
  rw [normalizeEol_append opening, closed, normalizeEol_xmlEscape, ← closed,
    normalizeEol_append closing]

/-- The line ends of a body are those of its keys, by induction on them. -/
theorem normalizeEol_deleteBody (keys : List (List Char))
    : normalizeEol (deleteBody keys) = deleteBody (keys.map normalizeEol) := by
  have opening : '\r' ∉ bodyOpening := by decide
  have closing : normalizeEol bodyClosing = bodyClosing := by decide
  rw [deleteBody, deleteBody, List.append_assoc, normalizeEol_append opening, List.append_assoc]
  congr 1
  induction keys with
  | nil => exact closing
  | cons key keys ih =>
      rw [List.flatMap_cons, List.append_assoc, normalizeEol_object, ih, List.map_cons,
        List.flatMap_cons]
      simp only [List.append_assoc]

/-- A body is XML where its keys can be written in XML, and then it names them with other line ends.
-/
theorem deleteKeys_deleteBody (keys : List (List Char))
    : deleteKeys (deleteBody keys)
      = if keys.all fun key => key.all isChar then some (keys.map normalizeEol) else none := by
  rw [deleteKeys, parse, all_isChar_deleteBody]
  split
  · rw [normalizeEol_deleteBody, scan_deleteBody, Option.bind_some, build_deleteBody,
      Option.map_some, namedKeys_deleteBody]
  · rfl

-----------------------------------------------------------------------------------------
-- The keys of a listing
-----------------------------------------------------------------------------------------

/-- What is escaped is read back, a listing yields its keys, and the body made of them names the
same keys.
-/
def DeletesAsListed (document : ListingDocument) : Prop :=
  (∀ s, xmlUnescape (xmlEscape s) = s)
  ∧ contentsKeys document.text = document.keys
  ∧ deleteKeys (deleteBody (contentsKeys document.text)) = some document.keys

/-- The body names the listed keys exactly where every key is XML text without a carriage return. -/
theorem deletesAsListed_iff (document : ListingDocument)
    : DeletesAsListed document
      ↔ ∀ key ∈ document.keys, (∀ c ∈ key, isChar c = true) ∧ '\r' ∉ key := by
  have text :
      (document.keys.all fun key => key.all isChar) = true
      ↔ ∀ key ∈ document.keys, ∀ c ∈ key, isChar c = true := by
    simp only [List.all_eq_true]
  have ends :
      document.keys.map normalizeEol = document.keys ↔ ∀ key ∈ document.keys, '\r' ∉ key := by
    have same := List.map_inj_left (f := normalizeEol) (g := id) (l := document.keys)
    rw [List.map_id] at same
    simp only [same, id, normalizeEol_eq_self_iff]
  rw [DeletesAsListed, contentsKeys_text, deleteKeys_deleteBody]
  constructor
  · intro h
    obtain ⟨-, -, named⟩ := h
    split at named
    · next valid =>
        intro key listed
        exact ⟨text.mp valid key listed, ends.mp (Option.some.inj named) key listed⟩
    · exact absurd named (Option.some_ne_none _).symm
  · intro plain
    have valid := text.mpr fun key listed => (plain key listed).1
    have same := ends.mpr fun key listed => (plain key listed).2
    exact ⟨xmlUnescape_xmlEscape, rfl, by rw [if_pos valid, same]⟩

/-- A listing whose one key has a carriage return. -/
def returnDocument : ListingDocument where
  objects :=
    [
      {
        gap := [],
        before := [],
        key := [.plain 'a' (by decide), .plain '\r' (by decide), .plain 'b' (by decide)],
        after := [],
        gap_without := by decide,
        before_without := by decide,
        after_without := by decide
      }
    ]
  rest := []
  rest_without := by decide

theorem named_returnDocument
    : deleteKeys (deleteBody (contentsKeys returnDocument.text)) = some [['a', '\n', 'b']] := by
  rfl

/-- The body made of it names another object. -/
theorem renamed_return : ¬DeletesAsListed returnDocument := by
  intro listed
  have named := named_returnDocument.symm.trans listed.2.2
  exact absurd named (by decide)

end ControlPlane.Buckets
