import ControlPlane.Migrations.TokensKept

/-! Comment stripping and what SQLite reads of a migration. The blanks at the ends are trimmed by
other rules than SQLite's, and a variable may hold what looks like a comment.
-/

namespace ControlPlane.Migrations

open ControlPlane.Kek (isTrimmed trim)
open ControlPlane.Library
open ControlPlane.Library.Sqlite

--------------------------------------------------------------------------------
-- One token
--------------------------------------------------------------------------------

/-- A token that begins with no quote and is no blob, and no variable or a bare one. -/
theorem word_keeps_plain {c : Char} {next : Option Char} {rest out : List Char}
    (unquoted : closers.lookup c = none) (noBlob : ¬ ((c = 'x' ∨ c = 'X') ∧ next = some '\''))
    (bare : isSigil c = true → Bare (c :: ((word c next).read rest).1))
    (strips : Strips rest out)
    : ∃ left, (word c next).read out = (((word c next).read rest).1, left)
        ∧ Strips ((word c next).read rest).2 left := by
  have noQuote : ¬ isQuote c = true := by
    intro quote
    exact nomatch unquoted.symm.trans (closers_lookup_iff.mpr (.inl ⟨quote, rfl⟩))
  have noBracket : ¬ c = '[' := by
    intro bracket
    exact nomatch unquoted.symm.trans (closers_lookup_iff.mpr (.inr ⟨bracket, rfl⟩))
  have dispatch : word c next
      = if isIdStart c then Recogniser.many isIdChar
        else if c.isDigit then number
        else if c = '.' ∧ next.any Char.isDigit then digits
        else if isSigil c then variableTail
        else if c = '?' then Recogniser.many Char.isDigit
        else Recogniser.oneOf (operatorTails c) := by
    rw [word, if_neg noQuote, if_neg noBracket, if_neg noBlob]
  rw [dispatch] at bare ⊢
  split
  · exact keeps_many wordy_idChar rest out strips
  split
  · exact keeps_number rest out strips
  split
  · exact keeps_digits rest out strips
  split
  next name number point sigil =>
    rw [if_neg name, if_neg number, if_neg point, if_pos sigil] at bare
    exact variableIn_keeps strips ((bare sigil).tail unquoted)
  split
  · exact keeps_many wordy_decimal rest out strips
  · exact keeps_operator c rest out strips

/-- The character behind the first one of a token is seen without the comments as with them. -/
theorem word_next {c : Char} {rest out : List Char} (strips : Strips rest out)
    : word c out.head? = word c rest.head? := by
  have quote : out.head? = some '\'' ↔ rest.head? = some '\'' := by
    constructor
    · intro next
      obtain ⟨tail, rfl⟩ := List.head?_eq_some_iff.mp next
      exact strips.quote_left (by decide)
    · intro next
      obtain ⟨tail, rfl⟩ := List.head?_eq_some_iff.mp next
      have opens : closers.lookup '\'' = some '\'' := by decide
      obtain ⟨_, _, _, _, _, rfl, _⟩ := strips.of_opener opens
      rfl
  have decimal : out.head?.any Char.isDigit = rest.head?.any Char.isDigit := by
    refine Bool.eq_iff_iff.mpr ⟨fun isDecimal => ?_, fun isDecimal => ?_⟩
    · obtain ⟨d, next, isDigit⟩ := (Option.any_eq_true _ _).mp isDecimal
      obtain ⟨tail, rfl⟩ := List.head?_eq_some_iff.mp next
      obtain ⟨_, rfl, _⟩ := strips.wordy_left (wordy_decimal d isDigit)
      simpa using isDigit
    · obtain ⟨d, next, isDigit⟩ := (Option.any_eq_true _ _).mp isDecimal
      obtain ⟨tail, rfl⟩ := List.head?_eq_some_iff.mp next
      obtain ⟨_, rfl, _⟩ := strips.wordy (wordy_decimal d isDigit)
      simpa using isDigit
  simp only [word, quote, decimal]

/-- A token is kept where it stands, whatever it begins with. -/
theorem word_keeps {c : Char} {rest out : List Char} (strips : Strips (c :: rest) out)
    (noComment : ¬ OpensComment c rest)
    (bare : isSigil c = true → Bare (c :: ((word c rest.head?).read rest).1))
    : ∃ outRest left, out = c :: outRest ∧ ¬ OpensComment c outRest
        ∧ (word c outRest.head?).read outRest = (((word c rest.head?).read rest).1, left)
        ∧ Strips ((word c rest.head?).read rest).2 left := by
  cases opens : closers.lookup c with
  | some closer =>
      have noOutComment : ∀ outRest, ¬ OpensComment c outRest := by
        intro outRest h
        rcases h with ⟨rfl, _⟩ | ⟨rfl, _⟩
        · exact nomatch (show closers.lookup '-' = none by decide).symm.trans opens
        · exact nomatch (show closers.lookup '/' = none by decide).symm.trans opens
      rcases closers_lookup_iff.mp opens with ⟨quote, rfl⟩ | ⟨rfl, rfl⟩
      · obtain ⟨outRest, left, isOut, isRead, remains⟩ := quotedIn_keeps quote strips rest rfl
        have isWord : ∀ next, word closer next = Recogniser.quoted closer :=
          fun next => if_pos quote
        rw [isWord]
        exact ⟨outRest, left, isOut, noOutComment outRest, by rw [isWord]; exact isRead, remains⟩
      · obtain ⟨body, behind, left, isOpen, rfl, rfl, later⟩ := strips.of_opener opens
        have isWord : ∀ next, word '[' next = Recogniser.through ']' := fun next => rfl
        have isRead : ∀ tail, (Recogniser.through ']').read (body ++ ']' :: tail)
            = (body ++ [']'], tail) := Recogniser.throughIn_close isOpen
        rw [isWord, isRead]
        exact ⟨_, left, rfl, noOutComment _, by rw [isWord, isRead], later⟩
  | none =>
      obtain ⟨outRest, rfl, later⟩ := strips.forward opens noComment
      have noOutComment : ¬ OpensComment c outRest := fun opens =>
        noComment (later.opensComment opens)
      by_cases isBlob : (c = 'x' ∨ c = 'X') ∧ rest.head? = some '\''
      · obtain ⟨tail, rfl⟩ := List.head?_eq_some_iff.mp isBlob.2
        have opensQuote : closers.lookup '\'' = some '\'' := by decide
        obtain ⟨body, behind, left, isOpen, rfl, rfl, remains⟩ := later.of_opener opensQuote
        have isWord : word c (some '\'') = blob := by
          rcases isBlob.1 with rfl | rfl <;> rfl
        refine ⟨_, left, rfl, noOutComment, ?_, ?_⟩
        · rw [List.head?_cons, List.head?_cons, isWord, blob_read isOpen, blob_read isOpen]
        · rw [List.head?_cons, isWord, blob_read isOpen]
          exact remains
      · obtain ⟨left, isRead, remains⟩ := word_keeps_plain opens isBlob bare later
        exact ⟨outRest, left, rfl, noOutComment, by rw [word_next later]; exact isRead, remains⟩

--------------------------------------------------------------------------------
-- All tokens
--------------------------------------------------------------------------------

/-- A character that is skipped is kept by the stripper. -/
theorem skipped_plain {c : Char} (skipped : isSkipped c = true)
    : closers.lookup c = none ∧ ∀ rest, ¬ OpensComment c rest := by
  have plain : closers.lookup c = none ∧ c ≠ '-' ∧ c ≠ '/' := by
    rcases Bool.or_eq_true_iff.mp skipped with space | mark
    · simp only [isSpace, Bool.or_eq_true, decide_eq_true_eq] at space
      rcases space with (((rfl | rfl) | rfl) | rfl) | rfl <;> decide
    · rw [of_decide_eq_true mark]
      decide
  exact ⟨plain.1, fun rest => by simp [OpensComment, plain.2]⟩

/-- Where no comment opens, SQLite reads a token or skips a character. -/
theorem items_word {c : Char} {rest : List Char} (begins : isSkipped c = false)
    (noComment : ¬ OpensComment c rest)
    : items (c :: rest)
      = .token (c :: ((word c rest.head?).read rest).1)
        :: items ((word c rest.head?).read rest).2 := by
  rw [items, if_neg (by simp [begins]), if_neg fun line => noComment (.inl line),
    if_neg fun block => noComment (.inr ⟨block.1, block.2.1⟩)]

theorem items_line {comment rest : List Char} (inLine : '\n' ∉ comment)
    (ends : rest.head? = none ∨ rest.head? = some '\n')
    : items ('-' :: '-' :: (comment ++ rest)) = .comment :: items rest := by
  rw [items, if_neg (by decide), if_pos ⟨rfl, rfl⟩, List.dropWhile_cons_of_pos (by decide),
    dropWhile_line inLine ends]

theorem items_block {comment : List Char} (isOpen : ¬ ['*', '/'] <:+: comment ++ ['*'])
    (rest : List Char)
    : items ('/' :: '*' :: (comment ++ '*' :: '/' :: rest)) = .comment :: items rest := by
  rw [items, if_neg (by decide), if_neg (by simp), if_pos ⟨rfl, rfl, by simp⟩, List.tail_cons,
    afterBlock_close isOpen]

/-- No variable holds an open quote, or what opens a comment outside quotes. -/
def VariablesBare (text : List Char) : Prop :=
  ∀ token ∈ tokensIn text, ∀ c ∈ token.head?, isSigil c = true → Bare token

/-- Before a token, a character is skipped or a comment is, and at most a blank is left of it. -/
theorem strips_step {c : Char} {rest out : List Char} (strips : Strips (c :: rest) out)
    : (∃ later left, later.length < (c :: rest).length ∧ Strips later left
        ∧ tokensIn (c :: rest) = tokensIn later
        ∧ (out = left ∨ ∃ blank, isSkipped blank = true ∧ out = blank :: left))
      ∨ isSkipped c = false ∧ ¬ OpensComment c rest := by
  by_cases opensHere : OpensComment c rest
  · left
    cases strips with
    | quoted opens =>
        rcases opensHere with ⟨rfl, _⟩ | ⟨rfl, _⟩
        · exact nomatch (show closers.lookup '-' = none by decide).symm.trans opens
        · exact nomatch (show closers.lookup '/' = none by decide).symm.trans opens
    | @line comment rest _ inLine ends later =>
        refine ⟨rest, out, ?_, later, ?_, .inl rfl⟩
        · simp only [List.length_cons, List.length_append]
          omega
        · rw [tokensIn, items_line inLine ends]
          rfl
    | @block comment rest out isOpen later =>
        refine ⟨rest, out, ?_, later, ?_, .inr ⟨' ', by decide, rfl⟩⟩
        · simp only [List.length_cons, List.length_append]
          omega
        · rw [tokensIn, items_block isOpen]
          rfl
    | other _ noComment => exact absurd opensHere noComment
  · cases skipped : isSkipped c with
    | false => exact .inr ⟨rfl, opensHere⟩
    | true =>
        obtain ⟨left, rfl, later⟩ := strips.forward (skipped_plain skipped).1 opensHere
        exact .inl ⟨rest, left, by simp, later, tokensIn_skipped skipped rest,
          .inr ⟨c, skipped, rfl⟩⟩

/-- A blank that is left is skipped. -/
theorem items_of_blank {out left : List Char}
    (isLeft : out = left ∨ ∃ blank, isSkipped blank = true ∧ out = blank :: left)
    : tokensIn out = tokensIn left ∧ (.comment ∈ items out → .comment ∈ items left) := by
  rcases isLeft with rfl | ⟨blank, skipped, rfl⟩
  · exact ⟨rfl, id⟩
  · refine ⟨tokensIn_skipped skipped left, ?_⟩
    rw [items_skipped skipped]
    exact fun member => by simpa using member

/-- A blank that is left is skipped in front of what is trimmed behind it. -/
theorem rdropWhile_of_blank {out left : List Char}
    (isLeft : out = left ∨ ∃ blank, isSkipped blank = true ∧ out = blank :: left)
    : tokensIn (out.rdropWhile isTrimmed) = tokensIn (left.rdropWhile isTrimmed) := by
  rcases isLeft with rfl | ⟨blank, skipped, rfl⟩
  · rfl
  · rcases TextParts.rdropWhile_cons isTrimmed blank left with ⟨all, both⟩ | kept
    · rw [all, both]
    · rw [kept, tokensIn_skipped skipped]

theorem tokensIn_word {c : Char} {rest : List Char} (begins : isSkipped c = false)
    (noComment : ¬ OpensComment c rest)
    : tokensIn (c :: rest)
      = (c :: ((word c rest.head?).read rest).1)
        :: tokensIn ((word c rest.head?).read rest).2 := by
  rw [tokensIn, items_word begins noComment]
  rfl

theorem word_shorter (c : Char) (next : Option Char) (rest : List Char)
    : ((word c next).read rest).2.length < (c :: rest).length := by
  have le := (word c next).left_le rest
  simp only [List.length_cons]
  omega

/-- SQLite reads of a text without its comments the tokens it reads of the text, and no comment.
By induction on the length of the text: what a token leaves of it is stripped to what it leaves
without the comments.
-/
theorem strips_tokens {text out : List Char} (strips : Strips text out)
    (bare : VariablesBare text)
    : .comment ∉ items out ∧ tokensIn out = tokensIn text := by
  induction isLength : text.length using Nat.strong_induction_on generalizing text out with
  | _ length ih =>
      subst isLength
      cases text with
      | nil =>
          cases strips
          exact ⟨by simp [items], rfl⟩
      | cons c rest =>
          rcases strips_step strips with
            ⟨later, left, shorter, remains, sameText, isLeft⟩ | ⟨begins, noComment⟩
          · obtain ⟨sameOut, comments⟩ := items_of_blank isLeft
            rw [VariablesBare, sameText] at bare
            obtain ⟨noComment, same⟩ := ih later.length shorter remains bare rfl
            rw [sameText, sameOut]
            exact ⟨fun member => noComment (comments member), same⟩
          · have here := tokensIn_word begins noComment
            rw [VariablesBare, here] at bare
            obtain ⟨outRest, left, rfl, noOutComment, isRead, remains⟩ :=
              word_keeps strips noComment fun sigil => bare _ List.mem_cons_self c rfl sigil
            obtain ⟨noLater, same⟩ := ih _ (word_shorter c _ rest) remains
              (fun token member => bare token (List.mem_cons_of_mem _ member)) rfl
            have outItems := items_word begins noOutComment
            have outTokens := tokensIn_word begins noOutComment
            rw [isRead] at outItems outTokens
            refine ⟨?_, ?_⟩
            · rw [outItems]
              simpa using noLater
            · rw [here, outTokens, same]

--------------------------------------------------------------------------------
-- What is lost
--------------------------------------------------------------------------------

/-- Every quoted text is terminated. What opens a comment may be anywhere. -/
inductive QuotesPaired : List Char → Prop
  | done : QuotesPaired []
  | quoted {opener closer : Char} {text rest : List Char}
      (opens : closers.lookup opener = some closer) (isOpen : closer ∉ text)
      (later : QuotesPaired rest)
      : QuotesPaired (opener :: (text ++ closer :: rest))
  | other {c : Char} {rest : List Char} (unquoted : closers.lookup c = none)
      (later : QuotesPaired rest)
      : QuotesPaired (c :: rest)

theorem OpensComment.of_prefix {c : Char} {rest longer : List Char} (opens : OpensComment c rest)
    (isPrefix : rest <+: longer)
    : OpensComment c longer := by
  obtain ⟨behind, rfl⟩ := isPrefix
  rcases opens with ⟨isDash, next⟩ | ⟨isSlash, next⟩
  · exact .inl ⟨isDash, by simp [next]⟩
  · exact .inr ⟨isSlash, by simp [next]⟩

/-- A character that opens no comment is kept, and opens none in what is left. -/
theorem Strips.head_kept {c : Char} {rest out : List Char} (strips : Strips (c :: rest) out)
    (noComment : ¬ OpensComment c rest)
    : ∃ outRest, out = c :: outRest ∧ ¬ OpensComment c outRest := by
  cases strips with
  | quoted opens =>
      refine ⟨_, rfl, ?_⟩
      intro h
      rcases h with ⟨rfl, _⟩ | ⟨rfl, _⟩
      · exact nomatch (show closers.lookup '-' = none by decide).symm.trans opens
      · exact nomatch (show closers.lookup '/' = none by decide).symm.trans opens
  | line => exact absurd (.inl ⟨rfl, rfl⟩) noComment
  | block => exact absurd (.inr ⟨rfl, rfl⟩) noComment
  | other _ _ later => exact ⟨_, rfl, fun opens => noComment (later.opensComment opens)⟩

/-- What is left of a comment does not begin as the comment does. -/
theorem Strips.comment_lost {c : Char} {rest out : List Char} (strips : Strips (c :: rest) out)
    (opens : OpensComment c rest)
    : out.head? ≠ some c := by
  intro isHead
  cases strips with
  | quoted isOpener =>
      rcases opens with ⟨rfl, _⟩ | ⟨rfl, _⟩
      · exact nomatch (show closers.lookup '-' = none by decide).symm.trans isOpener
      · exact nomatch (show closers.lookup '/' = none by decide).symm.trans isOpener
  | line _ ends later =>
      rw [later.head_of_line ends] at isHead
      rcases ends with nothing | newline
      · exact nomatch nothing.symm.trans isHead
      · exact absurd (newline.symm.trans isHead) (by decide)
  | block => exact absurd isHead (by simp)
  | other _ noComment => exact noComment opens

/-- A part that is not bare is not kept, by induction on it: the first comment in it is lost. -/
theorem QuotesPaired.lost {part rest out : List Char} (paired : QuotesPaired part)
    (marked : ¬ Bare part) (strips : Strips (part ++ rest) out)
    : ¬ part <+: out := by
  induction paired generalizing out with
  | done => exact absurd .done marked
  | @quoted opener closer text later opens isOpen _ ih =>
      intro h
      obtain ⟨behind, isOut⟩ := h
      rw [List.cons_append, List.append_assoc, List.cons_append] at strips
      obtain ⟨body, tail, left, bodyOpen, isRest, rfl, remains⟩ := strips.of_opener opens
      have same := (cutAfter_closer_iff.mpr ⟨text, isOpen, rfl, rfl⟩).symm.trans
        (cutAfter_closer_iff.mpr ⟨body, bodyOpen, isRest, rfl⟩)
      obtain ⟨sameQuoted, rfl⟩ := Prod.mk.inj (Option.some.inj same)
      obtain rfl := List.append_cancel_right sameQuoted
      refine ih (fun bare => marked (.quoted opens isOpen bare)) remains ⟨behind, ?_⟩
      simpa using isOut
  | @other c later unquoted _ ih =>
      intro h
      obtain ⟨behind, rfl⟩ := h
      by_cases opens : OpensComment c (later ++ rest)
      · exact strips.comment_lost opens rfl
      · obtain ⟨left, isLeft, remains⟩ := strips.forward unquoted opens
        obtain rfl := (List.cons.inj isLeft).2
        have markedLater : ¬ Bare later := by
          intro bare
          refine marked (.other unquoted (fun opensLater => opens ?_) bare)
          exact opensLater.of_prefix (List.prefix_append later rest)
        exact ih markedLater remains ⟨behind, rfl⟩

/-- The variables are bare if SQLite reads the same tokens of what is left and trimmed, and their
quotes are paired. By induction on the length of the text, as above.
-/
theorem variablesBare_of_tokens {text out : List Char} (strips : Strips text out)
    (paired : ∀ token ∈ tokensIn text, ∀ c ∈ token.head?, isSigil c = true → QuotesPaired token)
    (same : tokensIn (out.rdropWhile isTrimmed) = tokensIn text)
    : VariablesBare text := by
  induction isLength : text.length using Nat.strong_induction_on generalizing text out with
  | _ length ih =>
      subst isLength
      cases text with
      | nil =>
          intro token member
          rw [tokensIn, items] at member
          exact absurd member List.not_mem_nil
      | cons c rest =>
          rcases strips_step strips with
            ⟨later, left, shorter, remains, sameText, isLeft⟩ | ⟨begins, noComment⟩
          · rw [sameText] at paired same
            rw [rdropWhile_of_blank isLeft] at same
            rw [VariablesBare, sameText]
            exact ih later.length shorter remains paired same rfl
          · obtain ⟨outRest, isOut, noOutComment⟩ := strips.head_kept noComment
            obtain rfl := isOut
            have here := tokensIn_word begins noComment
            rw [here] at paired same
            rcases TextParts.rdropWhile_cons isTrimmed c outRest with ⟨nothing, _⟩ | kept
            · rw [nothing, tokensIn, items] at same
              cases same
            rw [kept] at same
            have isPrefix := List.rdropWhile_prefix isTrimmed outRest
            generalize isTrim : outRest.rdropWhile isTrimmed = trimmed at same kept isPrefix
            have noTrimComment : ¬ OpensComment c trimmed := fun opens =>
              noOutComment (opens.of_prefix isPrefix)
            rw [tokensIn_word begins noTrimComment] at same
            obtain ⟨sameToken, sameLater⟩ := List.cons.inj same
            have sameTaken := (List.cons.inj sameToken).2
            have isWhole := (word c trimmed.head?).whole trimmed
            rw [sameTaken] at isWhole
            have bare : isSigil c = true → Bare (c :: ((word c rest.head?).read rest).1) := by
              intro sigil
              by_contra marked
              have whole : Strips (c :: ((word c rest.head?).read rest).1
                  ++ ((word c rest.head?).read rest).2) (c :: outRest) := by
                rw [List.cons_append, (word c rest.head?).whole]
                exact strips
              -- The first token of what is left and trimmed is a part of what is left.
              refine (paired _ List.mem_cons_self c rfl sigil).lost marked whole ?_
              have within : ((word c rest.head?).read rest).1 <+: trimmed := ⟨_, isWhole⟩
              exact List.cons_prefix_cons.mpr ⟨rfl, within.trans isPrefix⟩
            obtain ⟨_, left, isSame, _, isRead, remains⟩ := word_keeps strips noComment bare
            obtain rfl := (List.cons.inj isSame).2
            have outWhole := (word c outRest.head?).whole outRest
            rw [isRead] at outWhole
            rw [← outWhole, ← isWhole] at isTrim
            rw [TextParts.rdropWhile_append isTrimmed isTrim] at sameLater
            have laterBare := ih _ (word_shorter c _ rest) remains
              (fun token member => paired token (List.mem_cons_of_mem _ member)) sameLater rfl
            rw [VariablesBare, here]
            intro token member d isHead sigil
            rcases List.mem_cons.mp member with rfl | member
            · obtain rfl := Option.some.inj isHead
              exact bare sigil
            · exact laterBare token member d isHead sigil

/-- What is skipped is trimmed. -/
theorem isTrimmed_of_skipped {c : Char} (skipped : isSkipped c = true) : isTrimmed c = true := by
  rcases Bool.or_eq_true_iff.mp skipped with space | mark
  · simp only [isSpace, Bool.or_eq_true, decide_eq_true_eq] at space
    rcases space with (((rfl | rfl) | rfl) | rfl) | rfl <;> decide
  · rw [of_decide_eq_true mark]
    decide

/-- What is trimmed at the front is skipped anyway, if the first token begins with nothing that
is trimmed. By induction on the length of the text, up to the first token.
-/
theorem front_skipped {text out : List Char} (strips : Strips text out)
    (first : ∀ token ∈ (tokensIn text).head?, ∀ c ∈ token.head?, isTrimmed c = false)
    : tokensIn (TextParts.strip isTrimmed out) = tokensIn (out.rdropWhile isTrimmed) := by
  induction isLength : text.length using Nat.strong_induction_on generalizing text out with
  | _ length ih =>
      subst isLength
      cases text with
      | nil =>
          cases strips
          rfl
      | cons c rest =>
          rcases strips_step strips with
            ⟨later, left, shorter, remains, sameText, isLeft⟩ | ⟨begins, noComment⟩
          · rw [sameText] at first
            rw [rdropWhile_of_blank isLeft, ← ih later.length shorter remains first rfl]
            rcases isLeft with rfl | ⟨blank, skipped, rfl⟩
            · rfl
            · rw [TextParts.strip_cons_of_pos isTrimmed (isTrimmed_of_skipped skipped)]
          · obtain ⟨outRest, rfl, _⟩ := strips.head_kept noComment
            rw [tokensIn_word begins noComment] at first
            have untrimmed : isTrimmed c = false := first _ rfl c rfl
            rw [TextParts.strip, List.dropWhile_cons_of_neg (by simp [untrimmed])]

--------------------------------------------------------------------------------
-- The stripped text
--------------------------------------------------------------------------------

/-- Comment stripping does what it is for: SQLite reads the same tokens and no comment, stripping
again changes nothing, and an open text is left alone.
-/
structure CommentsStripped (sql : String) : Prop where
  sameTokens : Terminated sql.toList → tokens (stripSqlComments sql) = tokens sql
  noComment : Terminated sql.toList → ¬ HasComment (stripSqlComments sql)
  idempotent : Terminated sql.toList →
    stripSqlComments (stripSqlComments sql) = stripSqlComments sql
  unchanged : ¬ Terminated sql.toList → stripSqlComments sql = sql

/-- The first token of a text begins, and its last one ends, with no character that is trimmed. -/
structure EndsInTokens (sql : String) : Prop where
  first : ∀ token ∈ (tokens sql).head?, ∀ c ∈ token.head?, isTrimmed c = false
  last : ∀ token ∈ (tokens sql).getLast?, ∀ c ∈ token.getLast?, isTrimmed c = false

/-- All characters that are left were there, but for the blanks. -/
theorem Strips.mem {text out : List Char} (strips : Strips text out) {c : Char} (member : c ∈ out)
    : c ∈ text ∨ c = ' ' := by
  induction strips with
  | done => exact .inl member
  | quoted _ _ _ ih =>
      simp only [List.mem_cons, List.mem_append] at member ⊢
      grind
  | line _ _ _ ih =>
      simp only [List.mem_cons, List.mem_append]
      grind
  | block _ _ ih =>
      simp only [List.mem_cons, List.mem_append] at member ⊢
      grind
  | other _ _ _ ih =>
      simp only [List.mem_cons] at member ⊢
      grind

theorem readable_eq {sql : String} (noNul : '\x00' ∉ sql.toList) : readable sql = sql.toList := by
  rw [readable, List.takeWhile_eq_self_iff]
  intro c member
  exact decide_eq_true fun same => noNul (same ▸ member)

/-- All of a text that has no NUL is read after it is stripped. -/
theorem readable_stripped {sql : String} {out : List Char} (strips : Strips sql.toList out)
    (noNul : '\x00' ∉ sql.toList)
    : readable (stripSqlComments sql) = TextParts.strip isTrimmed out := by
  have isList : (stripSqlComments sql).toList = TextParts.strip isTrimmed out := by
    rw [stripSqlComments_eq strips, String.toList_ofList]
  rw [readable_eq, isList]
  rw [isList]
  intro member
  rcases strips.mem ((TextParts.strip_sublist isTrimmed out).mem member) with there | blank
  · exact noNul there
  · exact absurd blank (by decide)

/-- A stripped text without comments begins and ends with a token. -/
theorem endsInTokens_of_stripped {sql : String} {out : List Char}
    (strips : Strips sql.toList out) (noNul : '\x00' ∉ sql.toList)
    (noComment : ¬ HasComment (stripSqlComments sql))
    : EndsInTokens (stripSqlComments sql) := by
  have isRead := readable_stripped strips noNul
  rw [HasComment, isRead] at noComment
  refine ⟨?_, ?_⟩
  · intro token isFirst c isHead
    rw [tokens, isRead] at isFirst
    cases isLeft : TextParts.strip isTrimmed out with
    | nil =>
        rw [isLeft, tokensIn, items] at isFirst
        cases isFirst
    | cons d rest =>
        have untrimmed := TextParts.strip_head isTrimmed isLeft
        have begins : isSkipped d = false := by
          by_contra skipped
          cases untrimmed.symm.trans (isTrimmed_of_skipped (by simpa using skipped))
        rw [isLeft] at isFirst noComment
        rw [tokensIn, items_token begins noComment] at isFirst
        obtain rfl := Option.some.inj isFirst
        obtain rfl := Option.some.inj isHead
        exact untrimmed
  · intro token isFinal c isLast
    rw [tokens, isRead] at isFinal
    rcases List.eq_nil_or_concat (TextParts.strip isTrimmed out) with nothing | ⟨before, d, isLeft⟩
    · rw [nothing, tokensIn, items] at isFinal
      cases isFinal
    · rw [List.concat_eq_append] at isLeft
      have untrimmed := TextParts.strip_last isTrimmed isLeft
      rw [isLeft] at isFinal noComment
      rcases items_last noComment with ⟨skipped, _⟩ | ⟨earlier, final, same, ends⟩
      · cases untrimmed.symm.trans (isTrimmed_of_skipped skipped)
      · have isToken : (tokensIn (before ++ [d])).getLast? = some final := by
          simp [tokensIn, same, Item.token?]
        obtain rfl := Option.some.inj (isToken.symm.trans isFinal)
        obtain rfl := Option.some.inj (ends.symm.trans isLast)
        exact untrimmed

end ControlPlane.Migrations
