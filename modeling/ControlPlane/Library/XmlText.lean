import Mathlib.Data.List.Basic

/-! XML 1.0 as far as elements without attributes go: which characters a document may have, how its
line ends are read, and the tree of its elements and characters.
-/

namespace ControlPlane.Library.Xml

-----------------------------------------------------------------------------------------
-- Characters
-----------------------------------------------------------------------------------------

/-- The characters of a document. -/
def isChar (c : Char) : Bool :=
  c = '\t' ∨ c = '\n' ∨ c = '\r' ∨ (0x20 ≤ c.toNat ∧ c.toNat ≤ 0xD7FF)
  ∨ (0xE000 ≤ c.toNat ∧ c.toNat ≤ 0xFFFD) ∨ 0x10000 ≤ c.toNat

/-- Every line end is read as one line feed, before anything else is. -/
def normalizeEol : List Char → List Char
  | [] => []
  | '\r' :: '\n' :: rest => '\n' :: normalizeEol rest
  | '\r' :: rest => '\n' :: normalizeEol rest
  | c :: rest => c :: normalizeEol rest

/-- A digit in base 10 or 16. -/
def digit? (hex : Bool) (c : Char) : Option Nat :=
  if c.isDigit then some (c.toNat - 48)
  else if hex ∧ 'a' ≤ c ∧ c ≤ 'f' then some (c.toNat - 87)
  else if hex ∧ 'A' ≤ c ∧ c ≤ 'F' then some (c.toNat - 55)
  else none

/-- The number of a character reference. -/
def number? (hex : Bool) (digits : List Char) : Option Nat :=
  if digits = [] then none
  else
    (digits.mapM (digit? hex)).map fun values =>
      values.foldl (fun number value => number * (if hex then 16 else 10) + value) 0

/-- What a reference stands for: one of the five entities, or a character by its number. -/
def reference (name : List Char) : Option Char :=
  match name with
  | ['l', 't'] => some '<'
  | ['g', 't'] => some '>'
  | ['a', 'm', 'p'] => some '&'
  | ['q', 'u', 'o', 't'] => some '"'
  | ['a', 'p', 'o', 's'] => some '\''
  | '#' :: 'x' :: digits => ((number? true digits).map Char.ofNat).filter isChar
  | '#' :: digits => ((number? false digits).map Char.ofNat).filter isChar
  | _ => none

-----------------------------------------------------------------------------------------
-- Tokens
-----------------------------------------------------------------------------------------

inductive Token
  | tag (inside : List Char)
  | char (c : Char)
  deriving DecidableEq, Repr

/-- Where the scan of a document is: the characters of a tag or a reference come in reverse. -/
inductive Mode
  | content
  | tag (read : List Char)
  | reference (read : List Char)
  deriving DecidableEq, Repr

def scan : Mode → List Char → Option (List Token)
  | .content, [] => some []
  | .tag _, [] | .reference _, [] => none
  | .content, c :: rest =>
      if c = '<' then scan (.tag []) rest
      else if c = '&' then scan (.reference []) rest
      else (scan .content rest).map (.char c :: ·)
  | .tag read, c :: rest =>
      if c = '>' then (scan .content rest).map (.tag read.reverse :: ·)
      else if c = '<' then none
      else scan (.tag (c :: read)) rest
  | .reference read, c :: rest =>
      if c = ';' then
        (reference read.reverse).bind fun meant => (scan .content rest).map (.char meant :: ·)
      else scan (.reference (c :: read)) rest

-----------------------------------------------------------------------------------------
-- The tree
-----------------------------------------------------------------------------------------

inductive Node
  | char (c : Char)
  | element (name : List Char) (children : List Node)

/-- Tags close in the order they open. The nodes of each open element come in reverse. -/
def build : List (List Char × List Node) → List Node → List Token → Option (List Node)
  | [], done, [] => some done.reverse
  | _ :: _, _, [] => none
  | stack, done, .char c :: rest => build stack (.char c :: done) rest
  | stack, done, .tag inside :: rest =>
      match inside, stack with
      -- a declaration or an instruction
      | '?' :: _, stack => build stack done rest
      | '/' :: name, (opened, outer) :: stack =>
          if opened = name then build stack (.element name done.reverse :: outer) rest else none
      | '/' :: _, [] => none
      | name, stack => build ((name, done) :: stack) [] rest

/-- The nodes of a document, where it is well formed. -/
def parse (text : List Char) : Option (List Node) :=
  if text.all isChar then (scan .content (normalizeEol text)).bind (build [] []) else none

def Node.char? : Node → Option Char
  | .char c => some c
  | .element _ _ => none

/-- The children of the elements of a name. -/
def Node.named? (name : List Char) : Node → Option (List Node)
  | .element own children => if own = name then some children else none
  | .char _ => none

/-- The character data of an element. -/
def textOf (children : List Node) : List Char :=
  children.filterMap Node.char?

-----------------------------------------------------------------------------------------
-- Line ends
-----------------------------------------------------------------------------------------

theorem normalizeEol_cons {c : Char} (visible : c ≠ '\r') (rest : List Char)
    : normalizeEol (c :: rest) = c :: normalizeEol rest := by
  rw [normalizeEol]
  · exact fun _ isReturn _ => visible isReturn
  · exact fun isReturn => visible isReturn

theorem normalizeEol_pair (rest : List Char)
    : normalizeEol ('\r' :: '\n' :: rest) = '\n' :: normalizeEol rest :=
  rfl

theorem normalizeEol_return {rest : List Char} (apart : ∀ tail, rest ≠ '\n' :: tail)
    : normalizeEol ('\r' :: rest) = '\n' :: normalizeEol rest := by
  rw [normalizeEol]
  exact apart

theorem normalizeEol_append {before : List Char} (visible : '\r' ∉ before) (rest : List Char)
    : normalizeEol (before ++ rest) = before ++ normalizeEol rest := by
  induction before with
  | nil => rfl
  | cons c before ih =>
      simp only [List.mem_cons, not_or] at visible
      rw [List.cons_append, normalizeEol_cons (Ne.symm visible.1), ih visible.2, List.cons_append]

/-- No carriage return is left, by induction on the text, two characters at a time. -/
theorem return_not_mem (text : List Char) : '\r' ∉ normalizeEol text := by
  induction text using normalizeEol.induct with
  | case1 => exact List.not_mem_nil
  | case2 rest ih =>
      rw [normalizeEol_pair]
      simp [ih]
  | case3 rest apart ih =>
      rw [normalizeEol_return apart]
      simp [ih]
  | case4 c rest notPair notReturn ih =>
      have visible : c ≠ '\r' := notReturn
      rw [normalizeEol_cons visible]
      simp [ih, visible.symm]

/-- Normalising changes nothing exactly where there is no carriage return. -/
theorem normalizeEol_eq_self_iff {text : List Char} : normalizeEol text = text ↔ '\r' ∉ text := by
  constructor
  · intro same
    rw [← same]
    exact return_not_mem text
  · intro visible
    have whole := normalizeEol_append visible []
    have nothing : normalizeEol [] = [] := rfl
    rwa [List.append_nil, nothing, List.append_nil] at whole

-----------------------------------------------------------------------------------------
-- Scanning and building
-----------------------------------------------------------------------------------------

theorem scan_content_cons (c : Char) (rest : List Char)
    : scan .content (c :: rest)
      = if c = '<' then scan (.tag []) rest
        else if c = '&' then scan (.reference []) rest
        else (scan .content rest).map (.char c :: ·) :=
  rfl

theorem scan_tag_cons (read : List Char) (c : Char) (rest : List Char)
    : scan (.tag read) (c :: rest)
      = if c = '>' then (scan .content rest).map (.tag read.reverse :: ·)
        else if c = '<' then none
        else scan (.tag (c :: read)) rest :=
  rfl

/-- The rest of a tag, by induction on it. -/
theorem scan_inside {inside : List Char} (formed : '<' ∉ inside ∧ '>' ∉ inside)
    (read rest : List Char)
    : scan (.tag read) (inside ++ '>' :: rest)
      = (scan .content rest).map (.tag (read.reverse ++ inside) :: ·) := by
  induction inside generalizing read with
  | nil => rw [List.nil_append, scan_tag_cons, if_pos rfl, List.append_nil]
  | cons c inside ih =>
      simp only [List.mem_cons, not_or] at formed
      have later := ih ⟨formed.1.2, formed.2.2⟩ (c :: read)
      rw [List.cons_append, scan_tag_cons, if_neg (Ne.symm formed.2.1),
        if_neg (Ne.symm formed.1.1), later, List.reverse_cons, List.append_assoc]
      rfl

/-- A tag is one token. -/
theorem scan_tag {inside : List Char} (formed : '<' ∉ inside ∧ '>' ∉ inside) (rest : List Char)
    : scan .content ('<' :: (inside ++ '>' :: rest))
      = (scan .content rest).map (.tag inside :: ·) := by
  rw [scan_content_cons, if_pos rfl, scan_inside formed]
  rfl

theorem scan_char {c : Char} (plain : c ≠ '&' ∧ c ≠ '<') (rest : List Char)
    : scan .content (c :: rest) = (scan .content rest).map (.char c :: ·) := by
  rw [scan_content_cons, if_neg plain.2, if_neg plain.1]

theorem build_char (stack : List (List Char × List Node)) (done : List Node) (c : Char)
    (rest : List Token)
    : build stack done (.char c :: rest) = build stack (.char c :: done) rest := by
  cases stack <;> rfl

/-- Characters become children of the element that is open. -/
theorem build_chars (stack : List (List Char × List Node)) (done : List Node)
    (chars : List Char) (rest : List Token)
    : build stack done (chars.map .char ++ rest)
      = build stack ((chars.map Node.char).reverse ++ done) rest := by
  induction chars generalizing done with
  | nil => rfl
  | cons c chars ih =>
      rw [List.map_cons, List.cons_append, build_char, ih, List.map_cons, List.reverse_cons,
        List.append_assoc]
      rfl

/-- The tag of a name opens an element. -/
theorem build_open {name : List Char} (plain : name.head? ≠ some '?' ∧ name.head? ≠ some '/')
    (stack : List (List Char × List Node)) (done : List Node) (rest : List Token)
    : build stack done (.tag name :: rest) = build ((name, done) :: stack) [] rest := by
  have begins (mark : Char) (tail : List Char) (same : name = mark :: tail)
      : name.head? = some mark := by
    rw [same, List.head?_cons]
  rw [build]
  · exact fun tail same => plain.1 (begins _ tail same)
  · exact fun tail _ _ _ same _ => plain.2 (begins _ tail same)
  · exact fun tail same _ => plain.2 (begins _ tail same)

theorem build_close (name : List Char) (stack : List (List Char × List Node))
    (outer done : List Node) (rest : List Token)
    : build ((name, outer) :: stack) done (.tag ('/' :: name) :: rest)
      = build stack (.element name done.reverse :: outer) rest :=
  if_pos rfl

theorem textOf_chars (chars : List Char) : textOf (chars.map .char) = chars := by
  induction chars with
  | nil => rfl
  | cons c chars ih => exact congrArg (c :: ·) ih

end ControlPlane.Library.Xml
