import Mathlib.Data.List.DropRight

/-! The lexical rules of SQLite: where a token of a text ends, and what is white space or a
comment between two tokens. A text ends at its first NUL.
-/

namespace ControlPlane.Library

--------------------------------------------------------------------------------
-- Recognisers
--------------------------------------------------------------------------------

/-- It takes the beginning of a text and leaves the rest. What it leaves at the end of the text
had no part in what it took.
-/
structure Recogniser where
  read : List Char → List Char × List Char
  whole : ∀ text, (read text).1 ++ (read text).2 = text
  stable : ∀ {text last taken rest},
    read (text ++ [last]) = (taken, rest ++ [last]) → read text = (taken, rest)

namespace Recogniser

/-- What is left is not longer than the text. -/
theorem left_le (recogniser : Recogniser) (text : List Char)
    : (recogniser.read text).2.length ≤ text.length := by
  have whole := congrArg List.length (recogniser.whole text)
  rw [List.length_append] at whole
  omega

/-- What a part of a text leaves of it, the last character of the text is left or nothing is. -/
theorem left_last (recogniser : Recogniser) (text : List Char) (last : Char)
    : (recogniser.read (text ++ [last])).2 = []
      ∨ ∃ rest, (recogniser.read (text ++ [last])).2 = rest ++ [last] := by
  have whole := recogniser.whole (text ++ [last])
  rcases List.eq_nil_or_concat (recogniser.read (text ++ [last])).2 with nothing | ⟨rest, c, left⟩
  · exact .inl nothing
  · rw [left, List.concat_eq_append, ← List.append_assoc] at whole
    have same : [c] = [last] := (List.append_inj' whole rfl).2
    exact .inr ⟨rest, by rw [left, List.concat_eq_append, same]⟩

/-- All characters of a kind. -/
def many (kind : Char → Bool) : Recogniser where
  read text := (text.takeWhile kind, text.dropWhile kind)
  whole text := List.takeWhile_append_dropWhile
  stable := by
    intro text last taken rest isRead
    obtain ⟨isTaken, isLeft⟩ := Prod.mk.inj isRead
    induction text generalizing taken with
    | nil =>
        by_cases isKind : kind last
        · simp [isKind] at isLeft
        · simp [isKind] at isTaken isLeft
          simp [isTaken, isLeft]
    | cons c later ih =>
        by_cases isKind : kind c
        · simp only [List.cons_append, List.takeWhile_cons, List.dropWhile_cons, isKind,
            if_true] at isTaken isLeft
          have inner := Prod.mk.inj (ih (Prod.ext rfl isLeft) rfl isLeft)
          simp only [List.takeWhile_cons, List.dropWhile_cons, isKind, if_true, inner.1, inner.2,
            isTaken]
        · simp only [List.cons_append, List.takeWhile_cons, List.dropWhile_cons, isKind,
            Bool.false_eq_true, if_false] at isTaken isLeft
          have longer : (c :: later) ++ [last] = rest ++ [last] := isLeft
          simp [isKind, ← isTaken, ← List.append_cancel_right longer]

/-- Everything up to a character, and the character. -/
def throughIn (closer : Char) : List Char → List Char × List Char
  | [] => ([], [])
  | c :: rest =>
      if c = closer then ([c], rest)
      else (c :: (throughIn closer rest).1, (throughIn closer rest).2)

/-- The text up to a character that closes it. -/
def through (closer : Char) : Recogniser where
  read := throughIn closer
  whole text := by
    induction text with
    | nil => rfl
    | cons c rest ih =>
        unfold throughIn
        split
        · rfl
        · simpa using ih
  stable := by
    intro text last taken rest isRead
    induction text generalizing taken with
    | nil =>
        by_cases closes : last = closer <;> simp [throughIn, closes] at isRead
    | cons c later ih =>
        by_cases closes : c = closer
        · simp only [List.cons_append, throughIn, closes, if_true, Prod.mk.injEq] at isRead ⊢
          exact ⟨isRead.1, List.append_cancel_right isRead.2⟩
        · simp only [List.cons_append, throughIn, closes, if_false, Prod.mk.injEq] at isRead ⊢
          obtain ⟨isTaken, isLeft⟩ := isRead
          have inner := Prod.mk.inj (ih (Prod.ext rfl isLeft))
          rw [inner.1, inner.2]
          exact ⟨isTaken, rfl⟩

/-- Through the first closer there is. -/
theorem throughIn_close {closer : Char} {text : List Char} (open_ : closer ∉ text)
    (rest : List Char)
    : throughIn closer (text ++ closer :: rest) = (text ++ [closer], rest) := by
  induction text with
  | nil => simp [throughIn]
  | cons c later ih =>
      rw [List.mem_cons, not_or] at open_
      rw [List.cons_append, throughIn, if_neg (Ne.symm open_.1), ih open_.2, List.cons_append]

/-- A quoted text after its opening quote. A quote that is doubled does not close it. -/
def quotedIn (quote : Char) : List Char → List Char × List Char
  | [] => ([], [])
  | [c] => ([c], [])
  | c :: next :: rest =>
      if c = quote then
        if next = quote then (c :: next :: (quotedIn quote rest).1, (quotedIn quote rest).2)
        else ([c], next :: rest)
      else (c :: (quotedIn quote (next :: rest)).1, (quotedIn quote (next :: rest)).2)

theorem quotedIn_other {quote c : Char} (other : c ≠ quote) (rest : List Char)
    : quotedIn quote (c :: rest) = (c :: (quotedIn quote rest).1, (quotedIn quote rest).2) := by
  cases rest with
  | nil => rfl
  | cons next rest => rw [quotedIn, if_neg other]

/-- A quote that no quote follows closes the text, by induction on the text. -/
theorem quotedIn_close {quote : Char} {text rest : List Char} (open_ : quote ∉ text)
    (single : rest.head? ≠ some quote)
    : quotedIn quote (text ++ quote :: rest) = (text ++ [quote], rest) := by
  induction text with
  | nil =>
      cases rest with
      | nil => rfl
      | cons next rest =>
          have other : next ≠ quote := fun same => single (by rw [same, List.head?_cons])
          simp [quotedIn, other]
  | cons c later ih =>
      rw [List.mem_cons, not_or] at open_
      rw [List.cons_append, quotedIn_other (Ne.symm open_.1), ih open_.2, List.cons_append]

/-- A quote that is doubled is part of the text, by induction on what is before it. -/
theorem quotedIn_double {quote : Char} {text : List Char} (open_ : quote ∉ text)
    (rest : List Char)
    : quotedIn quote (text ++ quote :: quote :: rest)
      = (text ++ quote :: quote :: (quotedIn quote rest).1, (quotedIn quote rest).2) := by
  induction text with
  | nil => simp [quotedIn]
  | cons c later ih =>
      rw [List.mem_cons, not_or] at open_
      rw [List.cons_append, quotedIn_other (Ne.symm open_.1), ih open_.2, List.cons_append]

/-- A quoted text, and another one right behind it is part of it. -/
def quoted (quote : Char) : Recogniser where
  read := quotedIn quote
  whole text := by
    induction text using quotedIn.induct quote with
    | case1 => rfl
    | case2 c => rfl
    | case3 rest ih => simpa [quotedIn] using ih
    | case4 next rest other => simp [quotedIn, other]
    | case5 c next rest other ih => simpa [quotedIn, other] using ih
  stable := by
    intro text last taken rest isRead
    induction text using quotedIn.induct quote generalizing taken with
    | case1 => simp [quotedIn] at isRead
    | case2 c =>
        by_cases closes : c = quote
        · by_cases doubled : last = quote
          · simp [quotedIn, closes, doubled] at isRead
          · simp [quotedIn, closes, doubled] at isRead
            simp [quotedIn, closes, ← isRead.1, isRead.2]
        · simp [quotedIn, closes] at isRead
    | case3 later ih =>
        simp only [List.cons_append, quotedIn, if_true, Prod.mk.injEq] at isRead ⊢
        obtain ⟨isTaken, isLeft⟩ := isRead
        have inner := Prod.mk.inj (ih (Prod.ext rfl isLeft))
        rw [inner.1, inner.2]
        exact ⟨isTaken, rfl⟩
    | case4 next later other =>
        simp only [List.cons_append, quotedIn, if_true, other, if_false, Prod.mk.injEq]
          at isRead ⊢
        have longer : (next :: later) ++ [last] = rest ++ [last] := isRead.2
        exact ⟨isRead.1, List.append_cancel_right longer⟩
    | case5 c next later other ih =>
        simp only [List.cons_append, quotedIn, other, if_false, Prod.mk.injEq] at isRead ⊢
        obtain ⟨isTaken, isLeft⟩ := isRead
        have inner := Prod.mk.inj (ih (Prod.ext rfl isLeft))
        rw [inner.1, inner.2]
        exact ⟨isTaken, rfl⟩

/-- Whether a text begins with characters of these kinds. -/
def startsAs : List (Char → Bool) → List Char → Bool
  | [], _ => true
  | _ :: _, [] => false
  | kind :: kinds, c :: rest => kind c && startsAs kinds rest

theorem startsAs_append {kinds : List (Char → Bool)} {text : List Char} (more : List Char)
    (starts : startsAs kinds text = true)
    : startsAs kinds (text ++ more) = true := by
  induction kinds generalizing text with
  | nil => rfl
  | cons kind kinds ih =>
      cases text with
      | nil => exact nomatch starts
      | cons c rest =>
          simp only [startsAs, List.cons_append, Bool.and_eq_true] at starts ⊢
          exact ⟨starts.1, ih starts.2⟩

theorem startsAs_of_append {kinds : List (Char → Bool)} {text more : List Char}
    (fits : kinds.length ≤ text.length) (starts : startsAs kinds (text ++ more) = true)
    : startsAs kinds text = true := by
  induction kinds generalizing text with
  | nil => rfl
  | cons kind kinds ih =>
      cases text with
      | nil => simp at fits
      | cons c rest =>
          simp only [startsAs, List.cons_append, Bool.and_eq_true] at starts ⊢
          exact ⟨starts.1, ih (by simpa using fits) starts.2⟩

theorem length_of_startsAs {kinds : List (Char → Bool)} {text : List Char}
    (starts : startsAs kinds text = true)
    : kinds.length ≤ text.length := by
  induction kinds generalizing text with
  | nil => simp
  | cons kind kinds ih =>
      cases text with
      | nil => exact nomatch starts
      | cons c rest =>
          simp only [startsAs, Bool.and_eq_true] at starts
          simpa using ih starts.2

/-- The first of some shapes that the text begins with, and nothing if it begins with none. -/
def oneOf (shapes : List (List (Char → Bool))) : Recogniser where
  read text :=
    match shapes.find? (startsAs · text) with
    | some shape => (text.take shape.length, text.drop shape.length)
    | none => ([], text)
  whole text := by
    split
    · exact List.take_append_drop _ _
    · rfl
  stable := by
    intro text last taken rest isRead
    have earlier : ∀ shape, startsAs shape (text ++ [last]) = false →
        startsAs shape text = false := by
      intro shape unlike
      by_contra starts
      rw [startsAs_append [last] (by simpa using starts)] at unlike
      cases unlike
    split at isRead
    next shape found =>
      obtain ⟨isTaken, isLeft⟩ := Prod.mk.inj isRead
      have fits : shape.length ≤ text.length := by
        have lengths := congrArg List.length isLeft
        simp only [List.length_drop, List.length_append, List.length_singleton] at lengths
        omega
      obtain ⟨starts, before, after, isShapes, others⟩ :=
        List.find?_eq_some_iff_append.mp found
      have same : shapes.find? (startsAs · text) = some shape := by
        refine List.find?_eq_some_iff_append.mpr
          ⟨startsAs_of_append fits starts, before, after, isShapes, ?_⟩
        intro other member
        have unlike : startsAs other (text ++ [last]) = false := by
          simpa using others other member
        simp [earlier other unlike]
      rw [same, ← isTaken]
      dsimp only
      rw [List.take_append_of_le_length fits]
      rw [List.drop_append_of_le_length fits] at isLeft
      rw [List.append_cancel_right isLeft]
    next nothing =>
      obtain ⟨isTaken, isLeft⟩ := Prod.mk.inj isRead
      have none : shapes.find? (startsAs · text) = none := by
        rw [List.find?_eq_none] at nothing ⊢
        intro shape member
        have unlike : startsAs shape (text ++ [last]) = false := by
          simpa using nothing shape member
        simp [earlier shape unlike]
      rw [none, ← isTaken, List.append_cancel_right isLeft]

/-- One recogniser and then another. -/
def andThen (first second : Recogniser) : Recogniser where
  read text :=
    ((first.read text).1 ++ (second.read (first.read text).2).1,
      (second.read (first.read text).2).2)
  whole text := by
    rw [List.append_assoc, second.whole, first.whole]
  stable := by
    intro text last taken rest isRead
    obtain ⟨isTaken, isLeft⟩ := Prod.mk.inj isRead
    rcases first.left_last text last with nothing | ⟨between, left⟩
    · have noMore := second.whole (first.read (text ++ [last])).2
      rw [nothing] at noMore isLeft
      simp [isLeft] at noMore
    · have before := first.stable (Prod.ext rfl left)
      rw [left] at isTaken isLeft
      have after := second.stable (Prod.ext rfl isLeft)
      simp only [before, after, isTaken]

end Recogniser

--------------------------------------------------------------------------------
-- Tokens
--------------------------------------------------------------------------------

namespace Sqlite

/-- White space: space, tab, newline, form feed and carriage return. -/
def isSpace (c : Char) : Bool :=
  c = ' ' || c = '\t' || c = '\n' || c = '\x0c' || c = '\r'

/-- It is skipped where a token could begin, and is part of a name elsewhere. -/
def byteOrderMark : Char := '\ufeff'

def isSkipped (c : Char) : Bool :=
  isSpace c || c = byteOrderMark

def isIdChar (c : Char) : Bool :=
  c.isAlphanum || c = '_' || c = '$' || 0x80 ≤ c.toNat

def isIdStart (c : Char) : Bool :=
  c.isAlpha || c = '_' || 0x80 ≤ c.toNat

/-- A digit, or the separator between digits. -/
def isDigit (c : Char) : Bool :=
  c.isDigit || c = '_'

/-- A character that begins a variable. -/
def isSigil (c : Char) : Bool :=
  c = '$' || c = '@' || c = '#' || c = ':'

def isQuote (c : Char) : Bool :=
  c = '\'' || c = '"' || c = '`'

/-- The parenthesised end of a variable: any text without white space. -/
def suffix : Recogniser :=
  (Recogniser.many fun c => !isSpace c && c ≠ ')').andThen (Recogniser.oneOf [[(· = ')')]])

/-- A variable after its sigil: a name, which double colons may part, and a suffix to it. -/
def variableIn (named : Bool) : List Char → List Char × List Char
  | [] => ([], [])
  | c :: rest =>
      if isIdChar c then (c :: (variableIn true rest).1, (variableIn true rest).2)
      else if c = '(' ∧ named then (c :: (suffix.read rest).1, (suffix.read rest).2)
      else if c = ':' ∧ rest.head? = some ':' then
        (c :: ':' :: (variableIn named rest.tail).1, (variableIn named rest.tail).2)
      else ([], c :: rest)
termination_by text => text.length

/-- What follows the sigil of a variable. -/
def variableTail : Recogniser where
  read := variableIn false
  whole text := by
    generalize false = named
    induction named, text using variableIn.induct with
    | case1 named => simp [variableIn]
    | case2 named c rest isName ih => simpa [variableIn, isName] using ih
    | case3 named c rest other opens =>
        rw [variableIn, if_neg other, if_pos opens, List.cons_append, suffix.whole]
    | case4 named c rest other closed double ih =>
        obtain ⟨later, rfl⟩ := List.head?_eq_some_iff.mp double.2
        rw [variableIn, if_neg other, if_neg closed, if_pos double]
        simpa using ih
    | case5 named c rest other closed single =>
        rw [variableIn, if_neg other, if_neg closed, if_neg single, List.nil_append]
  stable := by
    generalize false = named
    intro text last taken rest isRead
    induction named, text using variableIn.induct generalizing taken with
    | case1 named =>
        have nothing : (suffix.read []).2 = [] := by
          simpa using suffix.left_le []
        rw [List.nil_append, variableIn] at isRead
        simp only [variableIn, nothing, List.head?_nil] at isRead ⊢
        split at isRead
        next => simp at isRead
        next =>
          split at isRead <;> simp at isRead
          simp [isRead]
    | case2 named c later isName ih =>
        rw [List.cons_append, variableIn, if_pos isName] at isRead
        obtain ⟨isTaken, isLeft⟩ := Prod.mk.inj isRead
        have inner := Prod.mk.inj (ih (Prod.ext rfl isLeft))
        rw [variableIn, if_pos isName, inner.1, inner.2, isTaken]
    | case3 named c later other opens =>
        rw [List.cons_append, variableIn, if_neg other, if_pos opens] at isRead
        obtain ⟨isTaken, isLeft⟩ := Prod.mk.inj isRead
        have inner : suffix.read later = ((suffix.read (later ++ [last])).1, rest) :=
          suffix.stable (Prod.ext rfl isLeft)
        rw [variableIn, if_neg other, if_pos opens, inner, isTaken]
    | case4 named c later other closed double ih =>
        obtain ⟨more, rfl⟩ := List.head?_eq_some_iff.mp double.2
        rw [List.cons_append, variableIn, if_neg other, if_neg closed,
          if_pos ⟨double.1, rfl⟩] at isRead
        obtain ⟨isTaken, isLeft⟩ := Prod.mk.inj isRead
        have inner := Prod.mk.inj (ih (Prod.ext rfl isLeft))
        rw [variableIn, if_neg other, if_neg closed, if_pos double, inner.1, inner.2]
        exact Prod.ext isTaken rfl
    | case5 named c later other closed single =>
        rw [List.cons_append, variableIn, if_neg other, if_neg closed] at isRead
        rw [variableIn, if_neg other, if_neg closed, if_neg single]
        split at isRead
        next double =>
          cases later with
          | nil => simp [variableIn] at isRead
          | cons next more => exact absurd ⟨double.1, double.2⟩ single
        next =>
          obtain ⟨isTaken, isLeft⟩ := Prod.mk.inj isRead
          have longer : (c :: later) ++ [last] = rest ++ [last] := isLeft
          rw [← isTaken, List.append_cancel_right longer]

/-- The exponent of a number. -/
def exponent : Recogniser :=
  Recogniser.oneOf
    [[fun c => c = 'e' || c = 'E', Char.isDigit],
      [fun c => c = 'e' || c = 'E', fun c => c = '+' || c = '-', Char.isDigit]]

/-- Digits, an exponent, and what of a name sticks to them. -/
def digits : Recogniser :=
  (Recogniser.many isDigit).andThen
    (exponent.andThen ((Recogniser.many isDigit).andThen (Recogniser.many isIdChar)))

/-- A number after its first digit. -/
def number : Recogniser :=
  (Recogniser.many isDigit).andThen ((Recogniser.oneOf [[(· = '.')]]).andThen digits)

/-- A blob literal after its x. -/
def blob : Recogniser :=
  (Recogniser.oneOf [[(· = '\'')]]).andThen (Recogniser.through '\'')

/-- What may follow the first character of an operator, the longest first. -/
def operatorTails : Char → List (List (Char → Bool))
  | '-' => [[(· = '>'), (· = '>')], [(· = '>')]]
  | '=' => [[(· = '=')]]
  | '<' => [[(· = '=')], [(· = '>')], [(· = '<')]]
  | '>' => [[(· = '=')], [(· = '>')]]
  | '!' => [[(· = '=')]]
  | '|' => [[(· = '|')]]
  | _ => []

/-- The rest of the token that a character begins, before another character. -/
def word (c : Char) (next : Option Char) : Recogniser :=
  if isQuote c then Recogniser.quoted c
  else if c = '[' then Recogniser.through ']'
  else if (c = 'x' ∨ c = 'X') ∧ next = some '\'' then blob
  else if isIdStart c then Recogniser.many isIdChar
  else if c.isDigit then number
  else if c = '.' ∧ next.any Char.isDigit then digits
  else if isSigil c then variableTail
  else if c = '?' then Recogniser.many Char.isDigit
  else Recogniser.oneOf (operatorTails c)

/-- What is behind the end of a block comment. One that is left open takes everything. -/
def afterBlock : List Char → List Char
  | [] => []
  | [_] => []
  | c :: next :: rest =>
      if c = '*' ∧ next = '/' then rest else afterBlock (next :: rest)

theorem afterBlock_le (text : List Char) : (afterBlock text).length ≤ text.length := by
  induction text using afterBlock.induct with
  | case1 => simp [afterBlock]
  | case2 c => simp [afterBlock]
  | case3 c next rest ends =>
      rw [afterBlock, if_pos ends]
      simp only [List.length_cons]
      omega
  | case4 c next rest open_ ih =>
      rw [afterBlock, if_neg open_]
      simp only [List.length_cons] at ih ⊢
      omega

/-- A comment ends where it is closed first, by induction on it. -/
theorem afterBlock_close {comment : List Char} (isOpen : ¬ ['*', '/'] <:+: comment ++ ['*'])
    (rest : List Char)
    : afterBlock (comment ++ '*' :: '/' :: rest) = rest := by
  induction comment with
  | nil => simp [afterBlock]
  | cons c later ih =>
      have within : ¬ ['*', '/'] <:+: later ++ ['*'] :=
        fun closed => isOpen (closed.trans (List.suffix_cons c _).isInfix)
      have inner := ih within
      cases later with
      | nil =>
          rw [List.cons_append, List.nil_append, afterBlock, if_neg (by simp)]
          exact inner
      | cons next later =>
          have apart : ¬ (c = '*' ∧ next = '/') := by
            intro h
            obtain ⟨rfl, rfl⟩ := h
            exact isOpen (List.prefix_append ['*', '/'] (later ++ ['*'])).isInfix
          rw [List.cons_append, List.cons_append, afterBlock, if_neg apart]
          exact inner

inductive Item
  | space
  | comment
  | token (text : List Char)
  deriving DecidableEq, Repr

def Item.token? : Item → Option (List Char)
  | .token text => some text
  | .space | .comment => none

/-- A text, read one item after another. -/
def items : List Char → List Item
  | [] => []
  | c :: rest =>
      if isSkipped c then .space :: items rest
      else if c = '-' ∧ rest.head? = some '-' then
        .comment :: items (rest.dropWhile (· ≠ '\n'))
      else if c = '/' ∧ rest.head? = some '*' ∧ rest.tail ≠ [] then
        .comment :: items (afterBlock rest.tail)
      else
        .token (c :: ((word c rest.head?).read rest).1)
          :: items ((word c rest.head?).read rest).2
termination_by text => text.length
decreasing_by
  · simp
  · have shorter := (List.dropWhile_sublist (· ≠ '\n') (l := rest)).length_le
    simp only [List.length_cons]
    omega
  · have shorter := afterBlock_le rest.tail
    simp only [List.length_tail, List.length_cons] at shorter ⊢
    omega
  · have shorter := (word c rest.head?).left_le rest
    simp only [List.length_cons]
    omega

/-- The tokens of the characters that are read. -/
def tokensIn (text : List Char) : List (List Char) :=
  (items text).filterMap Item.token?

/-- The part of a text that is read. -/
def readable (text : String) : List Char :=
  text.toList.takeWhile (· ≠ '\x00')

/-- The tokens of a text, without the white space and the comments between them. -/
def tokens (text : String) : List (List Char) :=
  tokensIn (readable text)

/-- A text has a comment. What looks like one in a quoted text is none. -/
def HasComment (text : String) : Prop :=
  .comment ∈ items (readable text)

--------------------------------------------------------------------------------
-- The ends of a text
--------------------------------------------------------------------------------

theorem read_nil (recogniser : Recogniser) : recogniser.read [] = ([], []) := by
  have whole := List.append_eq_nil_iff.mp (recogniser.whole [])
  exact Prod.ext whole.1 whole.2

/-- A character that is skipped is an item of its own. -/
theorem items_skipped {c : Char} (skipped : isSkipped c = true) (rest : List Char)
    : items (c :: rest) = .space :: items rest := by
  rw [items, if_pos skipped]

theorem tokensIn_skipped {c : Char} (skipped : isSkipped c = true) (rest : List Char)
    : tokensIn (c :: rest) = tokensIn rest := by
  rw [tokensIn, items_skipped skipped]
  rfl

/-- A text without comments begins with white space or with a token. -/
theorem items_token {c : Char} {rest : List Char} (begins : isSkipped c = false)
    (noComment : .comment ∉ items (c :: rest))
    : items (c :: rest)
      = .token (c :: ((word c rest.head?).read rest).1)
        :: items ((word c rest.head?).read rest).2 := by
  rw [items, if_neg (by simp [begins])] at noComment ⊢
  split at noComment
  next => exact absurd List.mem_cons_self noComment
  next noLine =>
    rw [if_neg noLine]
    split at noComment
    next => exact absurd List.mem_cons_self noComment
    next noBlock => rw [if_neg noBlock]

/-- The last character of a text without comments is white space, or ends its last token. By
induction on the items: what a token leaves of the text is left of it without its last character.
-/
theorem items_last {text : List Char} {last : Char}
    (noComment : .comment ∉ items (text ++ [last]))
    : (isSkipped last = true ∧ items (text ++ [last]) = items text ++ [.space])
      ∨ ∃ before token,
          items (text ++ [last]) = before ++ [.token token] ∧ token.getLast? = some last := by
  induction text using items.induct with
  | case1 =>
      rw [List.nil_append] at noComment ⊢
      cases skipped : isSkipped last with
      | true => exact .inl ⟨rfl, by simp [items, skipped]⟩
      | false =>
          refine .inr ⟨[], [last], ?_, rfl⟩
          rw [items_token skipped noComment, read_nil, items]
          rfl
  | case2 c rest skipped ih =>
      rw [List.cons_append, items_skipped skipped] at noComment
      rw [List.cons_append, items_skipped skipped, items_skipped skipped]
      rcases ih (fun member => noComment (List.mem_cons_of_mem _ member)) with
        ⟨isLast, same⟩ | ⟨before, token, same, ends⟩
      · exact .inl ⟨isLast, by rw [same, List.cons_append]⟩
      · exact .inr ⟨.space :: before, token, by rw [same, List.cons_append], ends⟩
  | case3 c rest begins line ih =>
      obtain ⟨later, rfl⟩ := List.head?_eq_some_iff.mp line.2
      refine absurd ?_ noComment
      rw [List.cons_append, items, if_neg begins, if_pos ⟨line.1, rfl⟩]
      exact List.mem_cons_self
  | case4 c rest begins noLine block ih =>
      obtain ⟨later, rfl⟩ := List.head?_eq_some_iff.mp block.2.1
      refine absurd ?_ noComment
      rw [List.cons_append, items, if_neg begins, if_neg (by simp [block.1]),
        if_pos ⟨block.1, rfl, by simp⟩]
      exact List.mem_cons_self
  | case5 c rest begins noLine noBlock ih =>
      have unskipped : isSkipped c = false := by simpa using begins
      have here : items (c :: rest) = .token (c :: ((word c rest.head?).read rest).1)
          :: items ((word c rest.head?).read rest).2 := by
        rw [items, if_neg begins, if_neg noLine, if_neg noBlock]
      rw [List.cons_append] at noComment ⊢
      have longer := items_token unskipped noComment
      rw [longer] at noComment ⊢
      rcases (word c (rest ++ [last]).head?).left_last rest last with nothing | ⟨left, isLeft⟩
      · -- The token takes the whole text.
        have whole := (word c (rest ++ [last]).head?).whole (rest ++ [last])
        rw [nothing, List.append_nil] at whole
        rw [nothing, whole, items]
        exact .inr ⟨[], c :: (rest ++ [last]), rfl, List.getLast?_concat (l := c :: rest)⟩
      · have same : (word c rest.head?).read rest
            = (((word c (rest ++ [last]).head?).read (rest ++ [last])).1, left) := by
          cases rest with
          | nil =>
              have whole := (word c ([] ++ [last]).head?).whole ([] ++ [last])
              rw [isLeft] at whole
              have lengths := congrArg List.length whole
              simp only [List.length_append, List.length_singleton, List.length_nil] at lengths
              have noTaken := List.length_eq_zero_iff.mp (by omega :
                ((word c ([] ++ [last]).head?).read ([] ++ [last])).1.length = 0)
              have noLeft : left = [] := List.length_eq_zero_iff.mp (by omega)
              rw [noTaken, noLeft, read_nil]
          | cons next later => exact (word c (some next)).stable (Prod.ext rfl isLeft)
        have sameLeft : ((word c rest.head?).read rest).2 = left := congrArg Prod.snd same
        rw [isLeft] at noComment ⊢
        rw [sameLeft] at ih
        rw [here, same]
        rcases ih (fun member => noComment (List.mem_cons_of_mem _ member)) with
          ⟨isLast, tail⟩ | ⟨before, token, tail, ends⟩
        · exact .inl ⟨isLast, by rw [tail, List.cons_append]⟩
        · exact .inr ⟨_ :: before, token, by rw [tail, List.cons_append], ends⟩

/-- No character of a kind is lost at the beginning of a text when its first token begins with
none of them.
-/
theorem items_dropWhile {kind : Char → Bool} {text : List Char}
    (noComment : .comment ∉ items text)
    (first : ∀ token ∈ (tokensIn text).head?, ∀ c ∈ token.head?, kind c = false)
    : .comment ∉ items (text.dropWhile kind)
      ∧ tokensIn (text.dropWhile kind) = tokensIn text := by
  induction text with
  | nil => exact ⟨noComment, rfl⟩
  | cons c rest ih =>
      by_cases isKind : kind c = true
      · rw [List.dropWhile_cons_of_pos isKind]
        cases skipped : isSkipped c with
        | true =>
            rw [items_skipped skipped] at noComment
            rw [tokensIn_skipped skipped] at first ⊢
            exact ih (fun member => noComment (List.mem_cons_of_mem _ member)) first
        | false =>
            have begins := first (c :: ((word c rest.head?).read rest).1)
              (by simp [tokensIn, items_token skipped noComment, Item.token?]) c (by simp)
            rw [isKind] at begins
            exact nomatch begins
      · rw [List.dropWhile_cons_of_neg isKind]
        exact ⟨noComment, rfl⟩

/-- No character of a kind is lost at the end of a text when its last token ends with none of
them, by induction on the text from its end.
-/
theorem items_rdropWhile {kind : Char → Bool} {text : List Char}
    (noComment : .comment ∉ items text)
    (final : ∀ token ∈ (tokensIn text).getLast?, ∀ c ∈ token.getLast?, kind c = false)
    : .comment ∉ items (text.rdropWhile kind)
      ∧ tokensIn (text.rdropWhile kind) = tokensIn text := by
  induction text using List.reverseRecOn with
  | nil => exact ⟨noComment, rfl⟩
  | append_singleton text last ih =>
      by_cases isKind : kind last = true
      · rw [List.rdropWhile_concat_pos _ _ _ isKind]
        rcases items_last noComment with ⟨_, same⟩ | ⟨before, token, same, ends⟩
        · have sameTokens : tokensIn (text ++ [last]) = tokensIn text := by
            simp [tokensIn, same, Item.token?]
          rw [same] at noComment
          rw [sameTokens] at final ⊢
          exact ih (fun member => noComment (List.mem_append_left _ member)) final
        · have isFinal : token ∈ (tokensIn (text ++ [last])).getLast? := by
            simp [tokensIn, same, Item.token?]
          have unlike := final token isFinal last ends
          rw [isKind] at unlike
          exact nomatch unlike
      · rw [List.rdropWhile_concat_neg _ _ _ isKind]
        exact ⟨noComment, rfl⟩

end Sqlite
end ControlPlane.Library
