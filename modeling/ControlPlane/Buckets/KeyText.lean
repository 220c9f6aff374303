import ControlPlane.Library.TextSearch
import ControlPlane.Library.XmlText

/-! Object keys as XML text: how a key is escaped for a request, and how the keys of a listing are
read back.
-/

namespace ControlPlane.Buckets

open ControlPlane.Library

-----------------------------------------------------------------------------------------
-- Escaping
-----------------------------------------------------------------------------------------

/-- XML escaping for keys sent back in a delete request. -/
def xmlEscape (s : List Char) : List Char :=
  let amp := replaceAll ['&'] ['&', 'a', 'm', 'p', ';'] s
  let lt := replaceAll ['<'] ['&', 'l', 't', ';'] amp
  let gt := replaceAll ['>'] ['&', 'g', 't', ';'] lt
  let quot := replaceAll ['"'] ['&', 'q', 'u', 'o', 't', ';'] gt
  replaceAll ['\''] ['&', 'a', 'p', 'o', 's', ';'] quot

/-- Unescaping for keys read out of a listing. -/
def xmlUnescape (s : List Char) : List Char :=
  let lt := replaceAll ['&', 'l', 't', ';'] ['<'] s
  let gt := replaceAll ['&', 'g', 't', ';'] ['>'] lt
  let quot := replaceAll ['&', 'q', 'u', 'o', 't', ';'] ['"'] gt
  let apos := replaceAll ['&', 'a', 'p', 'o', 's', ';'] ['\''] quot
  let numeric := replaceAll ['&', '#', '3', '9', ';'] ['\''] apos
  -- last: the text of another entity may come out of it
  replaceAll ['&', 'a', 'm', 'p', ';'] ['&'] numeric

-----------------------------------------------------------------------------------------
-- Escaped text
-----------------------------------------------------------------------------------------

/-- The references an escaped text has. An apostrophe has two. -/
inductive Entity
  | lt
  | gt
  | quot
  | apos
  | numericApos
  | amp
  deriving DecidableEq, Repr

/-- The name of a reference, with the semicolon. -/
def Entity.name : Entity → List Char
  | .lt => ['l', 't', ';']
  | .gt => ['g', 't', ';']
  | .quot => ['q', 'u', 'o', 't', ';']
  | .apos => ['a', 'p', 'o', 's', ';']
  | .numericApos => ['#', '3', '9', ';']
  | .amp => ['a', 'm', 'p', ';']

def Entity.char : Entity → Char
  | .lt => '<'
  | .gt => '>'
  | .quot => '"'
  | .apos | .numericApos => '\''
  | .amp => '&'

/-- A character of an escaped text: for itself, or by a reference. -/
inductive Atom
  | plain (c : Char) (escaped : c ≠ '&' ∧ c ≠ '<')
  | reference (entity : Entity)
  deriving DecidableEq

def Atom.text : Atom → List Char
  | .plain c _ => [c]
  | .reference entity => '&' :: entity.name

def Atom.meaning : Atom → Char
  | .plain c _ => c
  | .reference entity => entity.char

/-- How the escaping writes a character. -/
def atomOf (c : Char) : Atom :=
  if amp : c = '&' then .reference .amp
  else if lt : c = '<' then .reference .lt
  else if c = '>' then .reference .gt
  else if c = '"' then .reference .quot
  else if c = '\'' then .reference .apos
  else .plain c ⟨amp, lt⟩

theorem meaning_atomOf (c : Char) : (atomOf c).meaning = c := by
  simp only [atomOf]
  split_ifs <;> simp_all [Atom.meaning, Entity.char]

/-- The replacements, one after the other, write every character as an atom. -/
theorem xmlEscape_eq (s : List Char) : xmlEscape s = s.flatMap fun c => (atomOf c).text := by
  simp only [xmlEscape, replaceAll_singleton, List.flatMap_assoc]
  refine List.flatMap_congr fun c _ => ?_
  simp only [atomOf]
  split_ifs <;> simp_all [Atom.text, Entity.name]

theorem xmlEscape_cons (c : Char) (s : List Char)
    : xmlEscape (c :: s) = (atomOf c).text ++ xmlEscape s := by
  simp [xmlEscape_eq]

-----------------------------------------------------------------------------------------
-- Unescaping
-----------------------------------------------------------------------------------------

/-- An atom where the references of a list are resolved already. -/
def Atom.spelled (resolved : List Entity) : Atom → List Char
  | .plain c _ => [c]
  | .reference entity => if entity ∈ resolved then [entity.char] else '&' :: entity.name

theorem amp_not_mem_name (entity : Entity) : '&' ∉ entity.name := by
  cases entity <;> decide

theorem char_ne_amp {entity : Entity} (other : entity ≠ .amp) : entity.char ≠ '&' := by
  cases entity with
  | amp => exact absurd rfl other
  | _ => decide

/-- No reference begins another. -/
theorem not_begins {entity other : Entity} (apart : entity ≠ other) (rest : List Char)
    : ('&' :: entity.name).isPrefixOf ('&' :: (other.name ++ rest)) = false := by
  cases entity <;> cases other <;>
    first
    | exact absurd rfl apart
    | simp [Entity.name, List.isPrefixOf]

/-- A reference by another name stays. -/
theorem replaceAll_other {entity other : Entity} (apart : entity ≠ other) (rest : List Char)
    : replaceAll ('&' :: entity.name) [entity.char] ('&' :: other.name ++ rest)
      = '&' :: other.name ++ replaceAll ('&' :: entity.name) [entity.char] rest := by
  have later := replaceAll_append (amp_not_mem_name other) entity.name [entity.char] rest
  rw [replaceAll] at later ⊢
  rw [List.cons_append, replaceFrom, not_begins apart, later]
  rfl

/-- A replacement resolves one more reference, as long as no ampersand has come out. -/
theorem replaceAll_spelled (resolved : List Entity) (entity : Entity)
    (kept : .amp ∉ resolved) (atoms : List Atom)
    : replaceAll ('&' :: entity.name) [entity.char] (atoms.flatMap (Atom.spelled resolved))
      = atoms.flatMap (Atom.spelled (entity :: resolved)) := by
  induction atoms with
  | nil => rfl
  | cons atom atoms ih =>
      rw [List.flatMap_cons, List.flatMap_cons, ← ih]
      cases atom with
      | plain c escaped =>
          have absent : '&' ∉ [c] := by simpa using escaped.1.symm
          exact replaceAll_append absent _ _ _
      | reference other =>
          by_cases done : other ∈ resolved
          · have apart : other ≠ .amp := fun same => kept (same ▸ done)
            have absent : '&' ∉ [other.char] := by simpa using (char_ne_amp apart).symm
            simp only [Atom.spelled, done, List.mem_cons, or_true, if_true]
            exact replaceAll_append absent _ _ _
          by_cases same : entity = other
          · subst same
            simp only [Atom.spelled, done, List.mem_cons, true_or, if_true, if_false]
            exact replaceAll_pattern _ _ _ _
          · have unread : other ∉ entity :: resolved := by simp [done, Ne.symm same]
            simp only [Atom.spelled, done, unread, if_false]
            exact replaceAll_other same _

theorem spelled_nil (atom : Atom) : atom.spelled [] = atom.text := by
  cases atom <;> rfl

theorem spelled_all (atom : Atom)
    : atom.spelled [.amp, .numericApos, .apos, .quot, .gt, .lt] = [atom.meaning] := by
  cases atom with
  | plain c _ => rfl
  | reference entity => cases entity <;> rfl

/-- Unescaping reads every atom as what it means: the ampersands come out last. -/
theorem xmlUnescape_text (atoms : List Atom)
    : xmlUnescape (atoms.flatMap Atom.text) = atoms.map Atom.meaning := by
  have start : atoms.flatMap Atom.text = atoms.flatMap (Atom.spelled []) :=
    List.flatMap_congr fun atom _ => (spelled_nil atom).symm
  have lt := replaceAll_spelled [] .lt (by decide) atoms
  have gt := replaceAll_spelled [.lt] .gt (by decide) atoms
  have quot := replaceAll_spelled [.gt, .lt] .quot (by decide) atoms
  have apos := replaceAll_spelled [.quot, .gt, .lt] .apos (by decide) atoms
  have numeric := replaceAll_spelled [.apos, .quot, .gt, .lt] .numericApos (by decide) atoms
  have amp := replaceAll_spelled [.numericApos, .apos, .quot, .gt, .lt] .amp (by decide) atoms
  simp only [Entity.name, Entity.char] at lt gt quot apos numeric amp
  simp only [xmlUnescape, start, lt, gt, quot, apos, numeric, amp, List.map_eq_flatMap]
  exact List.flatMap_congr fun atom _ => spelled_all atom

theorem xmlUnescape_xmlEscape (s : List Char) : xmlUnescape (xmlEscape s) = s := by
  have written : xmlEscape s = (s.map atomOf).flatMap Atom.text := by
    rw [xmlEscape_eq, List.flatMap_map]
  rw [written, xmlUnescape_text, List.map_map]
  exact (List.map_congr_left fun c _ => meaning_atomOf c).trans (List.map_id s)

end ControlPlane.Buckets
