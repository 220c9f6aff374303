import Mathlib.Data.Char
import Mathlib.Data.List.Basic

/-! JSON texts: what is printed of a value, and what is read of a text. A number is kept as it
is spelled. Fuel bounds the nesting, and the length of a text is always enough of it.
-/

namespace ControlPlane.Library

inductive Json
  | null
  | bool (value : Bool)
  | num (spelled : String)
  | str (value : String)
  | array (items : List Json)
  | object (members : List (String × Json))

namespace Json

def hexDigit (n : Nat) : Char :=
  if n < 10 then Char.ofNat (48 + n) else Char.ofNat (87 + n)

def hexValue (c : Char) : Option Nat :=
  if '0' ≤ c ∧ c ≤ '9' then some (c.toNat - 48)
  else if 'a' ≤ c ∧ c ≤ 'f' then some (c.toNat - 87)
  else if 'A' ≤ c ∧ c ≤ 'F' then some (c.toNat - 55)
  else none

/-- How a character stands inside quotes. -/
def escape (c : Char) : List Char :=
  if c = '"' then ['\\', '"']
  else if c = '\\' then ['\\', '\\']
  else if c.toNat = 8 then ['\\', 'b']
  else if c.toNat = 9 then ['\\', 't']
  else if c.toNat = 10 then ['\\', 'n']
  else if c.toNat = 12 then ['\\', 'f']
  else if c.toNat = 13 then ['\\', 'r']
  else if c.toNat < 32 then
    ['\\', 'u', '0', '0', hexDigit (c.toNat / 16), hexDigit (c.toNat % 16)]
  else [c]

/-- The characters after the opening quote. -/
def quoted (chars : List Char) : List Char :=
  chars.flatMap escape ++ ['"']

mutual

/-- JSON.stringify without indentation. -/
def print : Json → List Char
  | .null => ['n', 'u', 'l', 'l']
  | .bool true => ['t', 'r', 'u', 'e']
  | .bool false => ['f', 'a', 'l', 's', 'e']
  | .num spelled => spelled.toList
  | .str value => '"' :: quoted value.toList
  | .array [] => ['[', ']']
  | .array (item :: rest) => '[' :: (print item ++ printItems rest)
  | .object [] => ['{', '}']
  | .object ((key, value) :: rest) =>
      '{' :: '"' :: (quoted key.toList ++ ':' :: (print value ++ printMembers rest))

/-- The rest of an array after an item. -/
def printItems : List Json → List Char
  | [] => [']']
  | item :: rest => ',' :: (print item ++ printItems rest)

/-- The rest of an object after a member. -/
def printMembers : List (String × Json) → List Char
  | [] => ['}']
  | (key, value) :: rest =>
      ',' :: '"' :: (quoted key.toList ++ ':' :: (print value ++ printMembers rest))

end

-----------------------------------------------------------------------------------------
-- Reading a text
-----------------------------------------------------------------------------------------

def isSpace (c : Char) : Bool :=
  c = ' ' ∨ c = '\t' ∨ c = '\n' ∨ c = '\r'

def skipSpace (text : List Char) : List Char :=
  text.dropWhile isSpace

/-- What a one-letter escape stands for. -/
def unescape : Char → Option Nat
  | '"' => some 34
  | '\\' => some 92
  | '/' => some 47
  | 'b' => some 8
  | 'f' => some 12
  | 'n' => some 10
  | 'r' => some 13
  | 't' => some 9
  | _ => none

/-- The code units up to the closing quote, and what follows it. -/
def units : List Char → Option (List Nat × List Char)
  | [] => none
  | '"' :: rest => some ([], rest)
  | '\\' :: 'u' :: a :: b :: c :: d :: rest =>
      match hexValue a, hexValue b, hexValue c, hexValue d, units rest with
      | some a, some b, some c, some d, some (later, rest) =>
          some ((((a * 16 + b) * 16 + c) * 16 + d) :: later, rest)
      | _, _, _, _, _ => none
  | '\\' :: c :: rest =>
      match unescape c, units rest with
      | some unit, some (later, rest) => some (unit :: later, rest)
      | _, _ => none
  | c :: rest =>
      if c.toNat < 32 then none
      else (units rest).map fun later => (c.toNat :: later.1, later.2)

/-- The character of a code point. A lone surrogate has none. -/
def scalar (unit : Nat) : Char :=
  if unit.isValidChar then Char.ofNat unit else Char.ofNat 0xFFFD

/-- The characters of code units, two of a surrogate pair being one. -/
def ofUnits : List Nat → List Char
  | [] => []
  | [unit] => [scalar unit]
  | first :: second :: rest =>
      if 0xD800 ≤ first ∧ first < 0xDC00 ∧ 0xDC00 ≤ second ∧ second < 0xE000 then
        scalar (0x10000 + (first - 0xD800) * 0x400 + (second - 0xDC00)) :: ofUnits rest
      else
        scalar first :: ofUnits (second :: rest)

/-- A quoted text, its opening quote read. -/
def body (text : List Char) : Option (String × List Char) :=
  (units text).map fun read => (String.ofList (ofUnits read.1), read.2)

def literal (word : List Char) (value : Json) (text : List Char)
    : Option (Json × List Char) :=
  if word.isPrefixOf text then some (value, text.drop word.length) else none

/-- The part of a number that a mark starts, or nothing where the mark is missing. -/
def numberPart (isMark : Char → Bool) (signed : Bool) (text : List Char)
    : Option (List Char × List Char) :=
  match text with
  | mark :: rest =>
      if isMark mark then
        let sign := if signed then rest.takeWhile (fun c => c = '+' ∨ c = '-') else []
        let digits := (rest.drop sign.length).takeWhile Char.isDigit
        if digits = [] ∨ 1 < sign.length then none
        else some (mark :: sign ++ digits, rest.drop (sign.length + digits.length))
      else some ([], text)
  | [] => some ([], [])

def number (text : List Char) : Option (Json × List Char) :=
  let sign := if text.head? = some '-' then ['-'] else []
  let whole := (text.drop sign.length).takeWhile Char.isDigit
  if whole = [] ∨ (whole.head? = some '0' ∧ 1 < whole.length) then none
  else
    match numberPart (fun c => c = '.') false (text.drop (sign.length + whole.length)) with
    | none => none
    | some (fraction, rest) =>
        (numberPart (fun c => c = 'e' ∨ c = 'E') true rest).map fun read =>
          (.num (String.ofList (sign ++ whole ++ fraction ++ read.1)), read.2)

mutual

/-- One value at the head of a text, and what follows it. -/
def value : Nat → List Char → Option (Json × List Char)
  | 0, _ => none
  | fuel + 1, text =>
      match skipSpace text with
      | 'n' :: rest => literal ['u', 'l', 'l'] .null rest
      | 't' :: rest => literal ['r', 'u', 'e'] (.bool true) rest
      | 'f' :: rest => literal ['a', 'l', 's', 'e'] (.bool false) rest
      | '"' :: rest => (body rest).map fun read => (.str read.1, read.2)
      | '[' :: rest =>
          if (skipSpace rest).head? = some ']' then
            some (.array [], (skipSpace rest).tail)
          else
            match value fuel rest with
            | none => none
            | some (item, rest) =>
                (items fuel rest).map fun read => (.array (item :: read.1), read.2)
      | '{' :: rest =>
          if (skipSpace rest).head? = some '}' then
            some (.object [], (skipSpace rest).tail)
          else
            match member fuel rest with
            | none => none
            | some (first, rest) =>
                (members fuel rest).map fun read => (.object (first :: read.1), read.2)
      | text => number text

/-- The items after an item, up to the closing bracket. -/
def items : Nat → List Char → Option (List Json × List Char)
  | 0, _ => none
  | fuel + 1, text =>
      match skipSpace text with
      | ']' :: rest => some ([], rest)
      | ',' :: rest =>
          match value fuel rest with
          | none => none
          | some (item, rest) => (items fuel rest).map fun read => (item :: read.1, read.2)
      | _ => none

/-- A key with its value. -/
def member : Nat → List Char → Option ((String × Json) × List Char)
  | 0, _ => none
  | fuel + 1, text =>
      match skipSpace text with
      | '"' :: rest =>
          match body rest with
          | none => none
          | some (key, rest) =>
              match skipSpace rest with
              | ':' :: rest => (value fuel rest).map fun read => ((key, read.1), read.2)
              | _ => none
      | _ => none

/-- The members after a member, up to the closing brace. -/
def members : Nat → List Char → Option (List (String × Json) × List Char)
  | 0, _ => none
  | fuel + 1, text =>
      match skipSpace text with
      | '}' :: rest => some ([], rest)
      | ',' :: rest =>
          match member fuel rest with
          | none => none
          | some (first, rest) => (members fuel rest).map fun read => (first :: read.1, read.2)
      | _ => none

end

/-- JSON.parse, which has no result where it throws. -/
def parse (text : String) : Option Json :=
  match value (3 * text.toList.length + 1) text.toList with
  | some (read, rest) => if skipSpace rest = [] then some read else none
  | none => none

def stringify (json : Json) : String :=
  String.ofList json.print

/-- The value of a field of an object: the last of its key. -/
def field? (key : String) : Json → Option Json
  | .object members => (members.reverse.find? fun member => member.1 = key).map Prod.snd
  | _ => none

def text? : Json → Option String
  | .str value => some value
  | _ => none

-----------------------------------------------------------------------------------------
-- A printed string reads back
-----------------------------------------------------------------------------------------

theorem hexValue_hexDigit : ∀ n < 16, hexValue (hexDigit n) = some n := by
  decide

/-- An escaped character is read back as its code point. -/
theorem units_escape (c : Char) (rest : List Char)
    : units (escape c ++ rest) = (units rest).map fun read => (c.toNat :: read.1, read.2) := by
  unfold escape
  split_ifs with quote backslash b t n f r control
  · subst quote
    cases later : units rest <;> simp [units, unescape, later]
  · subst backslash
    cases later : units rest <;> simp [units, unescape, later]
  · cases later : units rest <;> simp [units, unescape, later, b]
  · cases later : units rest <;> simp [units, unescape, later, t]
  · cases later : units rest <;> simp [units, unescape, later, n]
  · cases later : units rest <;> simp [units, unescape, later, f]
  · cases later : units rest <;> simp [units, unescape, later, r]
  · have zero : hexValue '0' = some 0 := by decide
    have high := hexValue_hexDigit (c.toNat / 16) (by omega)
    have low := hexValue_hexDigit (c.toNat % 16) (by omega)
    have whole : c.toNat / 16 * 16 + c.toNat % 16 = c.toNat := by omega
    cases later : units rest <;> simp [units, zero, high, low, later, whole]
  · rw [List.singleton_append, units.eq_def]
    split
    · contradiction
    · next same => exact absurd (List.cons.inj same).1 quote
    · next same => exact absurd (List.cons.inj same).1 backslash
    · next same => exact absurd (List.cons.inj same).1 backslash
    · next same =>
        obtain ⟨sameChar, sameRest⟩ := List.cons.inj same
        rw [← sameChar, ← sameRest, if_neg control]

/-- Quoted characters are read up to the closing quote, by induction on them. -/
theorem units_quoted (chars rest : List Char)
    : units (quoted chars ++ rest) = some (chars.map Char.toNat, rest) := by
  induction chars with
  | nil => rfl
  | cons c later ih =>
      rw [quoted, List.flatMap_cons, List.append_assoc, List.append_assoc, units_escape,
        ← List.append_assoc]
      change (units (quoted later ++ rest)).map _ = _
      rw [ih]
      rfl

/-- A character is the character of its code point. -/
theorem scalar_toNat (c : Char) : scalar c.toNat = c := by
  have valid : c.toNat.isValidChar := c.valid
  rw [scalar, if_pos valid, Char.ofNat_toNat]

/-- No character is half of a surrogate pair, so code points are read one by one. -/
theorem ofUnits_toNat (chars : List Char) : ofUnits (chars.map Char.toNat) = chars := by
  induction chars with
  | nil => rfl
  | cons c rest ih =>
      cases rest with
      | nil => simp [ofUnits, scalar_toNat]
      | cons next later =>
          have notHigh : ¬ (0xD800 ≤ c.toNat ∧ c.toNat < 0xDC00) := by
            intro surrogate
            rcases c.valid with below | above
            · have : c.toNat < 0xD800 := below
              omega
            · have : 0xDFFF < c.toNat := above.1
              omega
          simp only [List.map_cons] at ih ⊢
          rw [ofUnits, if_neg fun pair => notHigh ⟨pair.1, pair.2.1⟩, scalar_toNat, ih]

/-- A quoted text is read back. -/
theorem body_quoted (value : String) (rest : List Char)
    : body (quoted value.toList ++ rest) = some (value, rest) := by
  rw [body, units_quoted, Option.map_some, ofUnits_toNat, String.ofList_toList]

-----------------------------------------------------------------------------------------
-- A printed value reads back
-----------------------------------------------------------------------------------------

/-- A value that is read back from what is printed of it, whatever follows. -/
structure Reads (json : Json) : Prop where
  starts : ∃ c rest, json.print = c :: rest ∧ isSpace c = false ∧ c ≠ ']'
  reads
    : ∀ fuel rest, 3 * json.print.length ≤ fuel
      → value fuel (json.print ++ rest) = some (json, rest)

theorem skipSpace_cons {c : Char} {rest : List Char} (visible : isSpace c = false)
    : skipSpace (c :: rest) = c :: rest := by
  rw [skipSpace, List.dropWhile_cons, if_neg (by simp [visible])]

theorem value_quote (fuel : Nat) (rest : List Char)
    : value (fuel + 1) ('"' :: rest) = (body rest).map fun read => (.str read.1, read.2) :=
  rfl

theorem value_bracket (fuel : Nat) (rest : List Char)
    : value (fuel + 1) ('[' :: rest)
      = if (skipSpace rest).head? = some ']' then some (.array [], (skipSpace rest).tail)
        else
          match value fuel rest with
          | none => none
          | some (item, rest) =>
              (items fuel rest).map fun read => (.array (item :: read.1), read.2) :=
  rfl

theorem value_brace (fuel : Nat) (rest : List Char)
    : value (fuel + 1) ('{' :: rest)
      = if (skipSpace rest).head? = some '}' then some (.object [], (skipSpace rest).tail)
        else
          match member fuel rest with
          | none => none
          | some (first, rest) =>
              (members fuel rest).map fun read => (.object (first :: read.1), read.2) :=
  rfl

theorem items_comma (fuel : Nat) (rest : List Char)
    : items (fuel + 1) (',' :: rest)
      = match value fuel rest with
        | none => none
        | some (item, rest) => (items fuel rest).map fun read => (item :: read.1, read.2) :=
  rfl

theorem members_comma (fuel : Nat) (rest : List Char)
    : members (fuel + 1) (',' :: rest)
      = match member fuel rest with
        | none => none
        | some (first, rest) => (members fuel rest).map fun read => (first :: read.1, read.2) :=
  rfl

/-- A text is read back. -/
theorem reads_str (value : String) : Reads (.str value) where
  starts := ⟨'"', quoted value.toList, rfl, rfl, by decide⟩
  reads := by
    intro fuel rest enough
    have printed : print (.str value) = '"' :: quoted value.toList := rfl
    rw [printed, List.length_cons] at enough
    obtain ⟨fuel, rfl⟩ : ∃ less, fuel = less + 1 := ⟨fuel - 1, by omega⟩
    rw [printed, List.cons_append, value_quote, body_quoted]
    rfl

/-- A truth value is read back. -/
theorem reads_bool (value : Bool) : Reads (.bool value) where
  starts := by
    cases value with
    | true => exact ⟨'t', ['r', 'u', 'e'], rfl, rfl, by decide⟩
    | false => exact ⟨'f', ['a', 'l', 's', 'e'], rfl, rfl, by decide⟩
  reads := by
    intro fuel rest enough
    have filled : 0 < (print (.bool value)).length := by cases value <;> decide
    obtain ⟨fuel, rfl⟩ : ∃ less, fuel = less + 1 := ⟨fuel - 1, by omega⟩
    cases value with
    | true => rfl
    | false => rfl

theorem reads_null : Reads .null where
  starts := ⟨'n', ['u', 'l', 'l'], rfl, rfl, by decide⟩
  reads := by
    intro fuel rest enough
    have filled : (print .null).length = 4 := rfl
    obtain ⟨fuel, rfl⟩ : ∃ less, fuel = less + 1 := ⟨fuel - 1, by omega⟩
    rfl

/-- The items after an item are read back when each of them is, by induction on them. -/
theorem items_printItems {later : List Json} (each : ∀ item ∈ later, Reads item) (fuel : Nat)
    (rest : List Char) (enough : 3 * (printItems later).length ≤ fuel)
    : items fuel (printItems later ++ rest) = some (later, rest) := by
  induction later generalizing fuel with
  | nil =>
      have closing : (printItems []).length = 1 := rfl
      obtain ⟨fuel, rfl⟩ : ∃ less, fuel = less + 1 := ⟨fuel - 1, by omega⟩
      rfl
  | cons item later ih =>
      have printed : printItems (item :: later) = ',' :: (item.print ++ printItems later) := rfl
      rw [printed] at enough ⊢
      rw [List.length_cons, List.length_append] at enough
      obtain ⟨fuel, rfl⟩ : ∃ less, fuel = less + 1 := ⟨fuel - 1, by omega⟩
      have onRest := ih (fun other member => each other (List.mem_cons_of_mem _ member)) fuel
        (by omega)
      have onItem := (each item List.mem_cons_self).reads fuel (printItems later ++ rest)
        (by omega)
      rw [List.cons_append, List.append_assoc, items_comma]
      simp only [onItem, onRest, Option.map_some]

/-- An array of values that are read back is read back. -/
theorem reads_array {list : List Json} (each : ∀ item ∈ list, Reads item)
    : Reads (.array list) where
  starts := by
    cases list with
    | nil => exact ⟨'[', [']'], rfl, rfl, by decide⟩
    | cons item later => exact ⟨'[', _, rfl, rfl, by decide⟩
  reads := by
    intro fuel rest enough
    cases list with
    | nil =>
        have brackets : (print (.array [])).length = 2 := rfl
        obtain ⟨fuel, rfl⟩ : ∃ less, fuel = less + 1 := ⟨fuel - 1, by omega⟩
        rfl
    | cons item later =>
        have printed : print (.array (item :: later)) = '[' :: (item.print ++ printItems later) :=
          rfl
        rw [printed] at enough ⊢
        rw [List.length_cons, List.length_append] at enough
        obtain ⟨fuel, rfl⟩ : ∃ less, fuel = less + 1 := ⟨fuel - 1, by omega⟩
        have onItem := each item List.mem_cons_self
        obtain ⟨c, tail, head, visible, notClosed⟩ := onItem.starts
        have onRest := items_printItems
          (fun other member => each other (List.mem_cons_of_mem _ member)) fuel rest (by omega)
        have nonempty
            : ¬ (skipSpace (item.print ++ (printItems later ++ rest))).head? = some ']' := by
          rw [head, List.cons_append, skipSpace_cons visible, List.head?_cons]
          exact fun closed => notClosed (Option.some.inj closed)
        rw [List.cons_append, List.append_assoc, value_bracket, if_neg nonempty]
        simp only [onItem.reads fuel (printItems later ++ rest) (by omega), onRest,
          Option.map_some]

/-- A key with a value that is read back is read back. -/
theorem member_quoted {key : String} {json : Json} (back : Reads json) (fuel : Nat)
    (rest : List Char) (enough : 3 * json.print.length ≤ fuel)
    : member (fuel + 1) ('"' :: (quoted key.toList ++ ':' :: (json.print ++ rest)))
      = some ((key, json), rest) := by
  rw [member, skipSpace_cons rfl]
  simp only [body_quoted, skipSpace_cons (show isSpace ':' = false from rfl),
    back.reads fuel rest enough, Option.map_some]

/-- The members after a member are read back when each value is, by induction on them. -/
theorem members_printMembers {later : List (String × Json)}
    (each : ∀ entry ∈ later, Reads entry.2) (fuel : Nat) (rest : List Char)
    (enough : 3 * (printMembers later).length ≤ fuel)
    : members fuel (printMembers later ++ rest) = some (later, rest) := by
  induction later generalizing fuel with
  | nil =>
      have closing : (printMembers []).length = 1 := rfl
      obtain ⟨fuel, rfl⟩ : ∃ less, fuel = less + 1 := ⟨fuel - 1, by omega⟩
      rfl
  | cons entry later ih =>
      obtain ⟨key, json⟩ := entry
      have printed : printMembers ((key, json) :: later)
          = ',' :: '"' :: (quoted key.toList ++ ':' :: (json.print ++ printMembers later)) := rfl
      rw [printed] at enough ⊢
      simp only [List.length_cons, List.length_append] at enough
      obtain ⟨fuel, rfl⟩ : ∃ less, fuel = less + 2 := ⟨fuel - 2, by omega⟩
      have onRest := ih (fun other member => each other (List.mem_cons_of_mem _ member)) (fuel + 1)
        (by omega)
      have back : Reads json := each (key, json) List.mem_cons_self
      have onEntry := fun key => @member_quoted key json back fuel (printMembers later ++ rest)
        (by omega)
      simp only [List.cons_append, List.append_assoc]
      rw [members_comma]
      simp only [onEntry, onRest, Option.map_some]

/-- An object whose values are read back is read back. -/
theorem reads_object {entries : List (String × Json)} (each : ∀ entry ∈ entries, Reads entry.2)
    : Reads (.object entries) where
  starts := by
    cases entries with
    | nil => exact ⟨'{', ['}'], rfl, rfl, by decide⟩
    | cons entry later => exact ⟨'{', _, rfl, rfl, by decide⟩
  reads := by
    intro fuel rest enough
    cases entries with
    | nil =>
        have braces : (print (.object [])).length = 2 := rfl
        obtain ⟨fuel, rfl⟩ : ∃ less, fuel = less + 1 := ⟨fuel - 1, by omega⟩
        rfl
    | cons entry later =>
        obtain ⟨key, json⟩ := entry
        have printed : print (.object ((key, json) :: later))
            = '{' :: '"' :: (quoted key.toList ++ ':' :: (json.print ++ printMembers later)) := rfl
        rw [printed] at enough ⊢
        simp only [List.length_cons, List.length_append] at enough
        obtain ⟨fuel, rfl⟩ : ∃ less, fuel = less + 2 := ⟨fuel - 2, by omega⟩
        have back : Reads json := each (key, json) List.mem_cons_self
        have onEntry := fun key => @member_quoted key json back fuel (printMembers later ++ rest)
          (by omega)
        have onRest := members_printMembers
          (fun other member => each other (List.mem_cons_of_mem _ member)) (fuel + 1) rest
          (by omega)
        simp only [List.cons_append, List.append_assoc]
        rw [value_brace]
        simp only [skipSpace_cons (show isSpace '"' = false from rfl), List.head?_cons,
          Option.some.injEq, Char.reduceEq, if_false, onEntry, onRest, Option.map_some]

/-- A value that is read back, whatever follows, is what its printed text parses to. -/
theorem parse_stringify {json : Json} (back : Reads json) : parse json.stringify = some json := by
  have read := back.reads (3 * json.print.length + 1) [] (by omega)
  rw [List.append_nil] at read
  rw [parse, stringify, String.toList_ofList, read]
  rfl

end Json

end ControlPlane.Library
