import ControlPlane.Library.SqliteTokens
import ControlPlane.Library.TextParts
import ControlPlane.Migrations.SqlText

/-! A migration read in the modes of its stripper: quoted text, line comments, block comments and
the rest. What is left without the comments has none, and stripping it again changes nothing.
-/

namespace ControlPlane.Migrations

open ControlPlane.Kek (isTrimmed trim)
open ControlPlane.Library

--------------------------------------------------------------------------------
-- The first mark in a text
--------------------------------------------------------------------------------

/-- A text is cut where the mark is met first, by induction on the text. -/
theorem cutAfter_eq_some_iff {init text before after : List Char} {last : Char}
    : cutAfter (init ++ [last]) text = some (before, after)
      ↔ ∃ body, text = body ++ (init ++ last :: after) ∧ before = body ++ (init ++ [last])
          ∧ ¬ init ++ [last] <:+: body ++ init := by
  constructor
  · intro cut
    induction text generalizing before with
    | nil => exact nomatch cut
    | cons c rest ih =>
        rw [cutAfter] at cut
        split at cut
        next here =>
          obtain ⟨rfl, rfl⟩ := Prod.mk.inj (Option.some.inj cut)
          obtain ⟨after, isText⟩ := List.isPrefixOf_iff_prefix.mp here
          refine ⟨[], by simp [← isText], rfl, fun within => ?_⟩
          have lengths := within.length_le
          simp only [List.length_append, List.length_singleton, List.nil_append] at lengths
          omega
        next notHere =>
          obtain ⟨⟨inner, tail⟩, found, same⟩ := Option.map_eq_some_iff.mp cut
          obtain ⟨rfl, rfl⟩ := Prod.mk.inj same
          obtain ⟨body, isRest, isInner, first⟩ := ih found
          refine ⟨c :: body, by simp [isRest], by simp [isInner], fun within => ?_⟩
          rcases List.infix_cons_iff.mp within with starts | later
          · refine notHere (List.isPrefixOf_iff_prefix.mpr (starts.trans ?_))
            exact ⟨last :: tail, by simp [isRest]⟩
          · exact first later
  · intro h
    obtain ⟨body, rfl, rfl, first⟩ := h
    induction body with
    | nil =>
        have here : (init ++ [last]).isPrefixOf (init ++ last :: after) = true :=
          List.isPrefixOf_iff_prefix.mpr ⟨after, by simp⟩
        rw [List.nil_append]
        cases init with
        | nil => simp [cutAfter]
        | cons c init =>
            simp only [List.cons_append] at here ⊢
            rw [cutAfter, if_pos here]
            simp
    | cons c body ih =>
        have notHere : ¬ (init ++ [last]).isPrefixOf
            (c :: (body ++ (init ++ last :: after))) = true := by
          intro here
          refine first (List.IsPrefix.isInfix ?_)
          refine List.prefix_of_prefix_length_le (List.isPrefixOf_iff_prefix.mp here) ?_ ?_
          · exact ⟨last :: after, by simp⟩
          · simp only [List.cons_append, List.length_cons, List.length_append, List.length_nil]
            omega
        have later : ¬ init ++ [last] <:+: body ++ init :=
          fun within => first (within.trans (List.suffix_cons c _).isInfix)
        rw [List.cons_append, cutAfter, if_neg notHere, ih later]
        rfl

theorem singleton_infix_iff {c : Char} {text : List Char} : [c] <:+: text ↔ c ∈ text := by
  constructor
  · intro within
    exact within.subset (List.mem_singleton_self c)
  · intro member
    obtain ⟨before, after, isText⟩ := List.append_of_mem member
    exact ⟨before, after, by simp [isText]⟩

/-- A quoted text ends at its first closer. -/
theorem cutAfter_closer_iff {closer : Char} {text before after : List Char}
    : cutAfter [closer] text = some (before, after)
      ↔ ∃ body, closer ∉ body ∧ text = body ++ closer :: after ∧ before = body ++ [closer] := by
  have mark : [closer] = [] ++ [closer] := rfl
  rw [mark, cutAfter_eq_some_iff]
  simp only [List.nil_append, List.append_nil, singleton_infix_iff]
  constructor
  · intro h
    obtain ⟨body, isText, isBefore, first⟩ := h
    exact ⟨body, first, isText, isBefore⟩
  · intro h
    obtain ⟨body, first, isText, isBefore⟩ := h
    exact ⟨body, isText, isBefore, first⟩

/-- A block comment ends at its first end mark. -/
theorem cutAfter_block_iff {text before after : List Char}
    : cutAfter "*/".toList text = some (before, after)
      ↔ ∃ comment, ¬ ['*', '/'] <:+: comment ++ ['*'] ∧ text = comment ++ '*' :: '/' :: after
          ∧ before = comment ++ ['*', '/'] := by
  have mark : "*/".toList = ['*'] ++ ['/'] := by decide
  rw [mark, cutAfter_eq_some_iff]
  constructor
  · intro h
    obtain ⟨body, isText, isBefore, first⟩ := h
    exact ⟨body, first, isText, isBefore⟩
  · intro h
    obtain ⟨body, first, isText, isBefore⟩ := h
    exact ⟨body, isText, isBefore, first⟩

--------------------------------------------------------------------------------
-- A text and what is left of it
--------------------------------------------------------------------------------

/-- The characters open a comment. -/
def OpensComment (c : Char) (rest : List Char) : Prop :=
  c = '-' ∧ rest.head? = some '-' ∨ c = '/' ∧ rest.head? = some '*'

/-- Every quoted text and every block comment outside a line comment is terminated. -/
inductive Terminated : List Char → Prop
  | done : Terminated []
  | quoted {opener closer : Char} {text rest : List Char}
      (opens : closers.lookup opener = some closer) (isOpen : closer ∉ text)
      (later : Terminated rest)
      : Terminated (opener :: (text ++ closer :: rest))
  | line {comment rest : List Char} (inLine : '\n' ∉ comment)
      (ends : rest.head? = none ∨ rest.head? = some '\n') (later : Terminated rest)
      : Terminated ('-' :: '-' :: (comment ++ rest))
  | block {comment rest : List Char} (isOpen : ¬ ['*', '/'] <:+: comment ++ ['*'])
      (later : Terminated rest)
      : Terminated ('/' :: '*' :: (comment ++ '*' :: '/' :: rest))
  | other {c : Char} {rest : List Char} (unquoted : closers.lookup c = none)
      (noComment : ¬ OpensComment c rest) (later : Terminated rest)
      : Terminated (c :: rest)

/-- What is left of a text without its comments: a block comment leaves a blank. -/
inductive Strips : List Char → List Char → Prop
  | done : Strips [] []
  | quoted {opener closer : Char} {text rest out : List Char}
      (opens : closers.lookup opener = some closer) (isOpen : closer ∉ text)
      (later : Strips rest out)
      : Strips (opener :: (text ++ closer :: rest)) (opener :: (text ++ closer :: out))
  | line {comment rest out : List Char} (inLine : '\n' ∉ comment)
      (ends : rest.head? = none ∨ rest.head? = some '\n') (later : Strips rest out)
      : Strips ('-' :: '-' :: (comment ++ rest)) out
  | block {comment rest out : List Char} (isOpen : ¬ ['*', '/'] <:+: comment ++ ['*'])
      (later : Strips rest out)
      : Strips ('/' :: '*' :: (comment ++ '*' :: '/' :: rest)) (' ' :: out)
  | other {c : Char} {rest out : List Char} (unquoted : closers.lookup c = none)
      (noComment : ¬ OpensComment c rest) (later : Strips rest out)
      : Strips (c :: rest) (c :: out)

theorem strips_of_terminated {text : List Char} (terminated : Terminated text)
    : ∃ out, Strips text out := by
  induction terminated with
  | done => exact ⟨[], .done⟩
  | quoted opens isOpen _ ih => exact ih.imp' _ fun _ later => .quoted opens isOpen later
  | line inLine ends _ ih => exact ih.imp fun _ later => .line inLine ends later
  | block isOpen _ ih => exact ih.imp' _ fun _ later => .block isOpen later
  | other unquoted noComment _ ih => exact ih.imp' _ fun _ later => .other unquoted noComment later

theorem Strips.terminated {text out : List Char} (strips : Strips text out)
    : Terminated text := by
  induction strips with
  | done => exact .done
  | quoted opens isOpen _ ih => exact .quoted opens isOpen ih
  | line inLine ends _ ih => exact .line inLine ends ih
  | block isOpen _ ih => exact .block isOpen ih
  | other unquoted noComment _ ih => exact .other unquoted noComment ih

/-- A line comment is dropped up to its newline. -/
theorem dropWhile_line {comment rest : List Char} (inLine : '\n' ∉ comment)
    (ends : rest.head? = none ∨ rest.head? = some '\n')
    : (comment ++ rest).dropWhile (· ≠ '\n') = rest := by
  induction comment with
  | nil =>
      cases rest with
      | nil => rfl
      | cons c rest =>
          have isNewline : c = '\n' := by simpa using ends
          simp [isNewline]
  | cons c comment ih =>
      rw [List.mem_cons, not_or] at inLine
      rw [List.cons_append, List.dropWhile_cons_of_pos (by simpa using Ne.symm inLine.1)]
      exact ih inLine.2

/-- A text is a line of a comment and the rest after it. -/
theorem exists_line (text : List Char)
    : ∃ comment rest, text = comment ++ rest ∧ '\n' ∉ comment
        ∧ (rest.head? = none ∨ rest.head? = some '\n') := by
  refine ⟨text.takeWhile (· ≠ '\n'), text.dropWhile (· ≠ '\n'),
    List.takeWhile_append_dropWhile.symm, fun member => ?_, ?_⟩
  · simpa using List.mem_takeWhile_imp member
  · cases left : text.dropWhile (· ≠ '\n') with
    | nil => exact .inl rfl
    | cons c rest =>
        have stopped := List.head?_dropWhile_not (· ≠ '\n') text
        rw [left] at stopped
        exact .inr (by simpa using stopped)

theorem stripFrom_quoted {opener closer : Char} (opens : closers.lookup opener = some closer)
    (rest : List Char)
    : stripFrom (opener :: rest)
      = (cutAfter [closer] rest).bind fun cut =>
          (stripFrom cut.2).map fun out => opener :: (cut.1 ++ out) := by
  rw [stripFrom, opens]
  dsimp only
  split <;> simp [*]

theorem stripFrom_line (rest : List Char)
    : stripFrom ('-' :: '-' :: rest) = stripFrom (rest.dropWhile (· ≠ '\n')) := by
  have unquoted : closers.lookup '-' = none := by decide
  have line : "--".toList.isPrefixOf ('-' :: '-' :: rest) = true := by simp
  rw [stripFrom, unquoted]
  dsimp only
  rw [if_pos line, List.dropWhile_cons_of_pos (by decide)]

theorem stripFrom_block (rest : List Char)
    : stripFrom ('/' :: '*' :: rest)
      = (cutAfter "*/".toList rest).bind fun cut => (stripFrom cut.2).map fun out => ' ' :: out := by
  have unquoted : closers.lookup '/' = none := by decide
  have noLine : ¬ "--".toList.isPrefixOf ('/' :: '*' :: rest) = true := by simp
  have block : "/*".toList.isPrefixOf ('/' :: '*' :: rest) = true := by simp
  rw [stripFrom, unquoted]
  dsimp only
  rw [if_neg noLine, if_pos block]
  split <;> simp_all

theorem stripFrom_other {c : Char} {rest : List Char} (unquoted : closers.lookup c = none)
    (noComment : ¬ OpensComment c rest)
    : stripFrom (c :: rest) = (stripFrom rest).map fun out => c :: out := by
  have noLine : ¬ "--".toList.isPrefixOf (c :: rest) = true := by
    intro line
    obtain ⟨after, isText⟩ := List.isPrefixOf_iff_prefix.mp line
    obtain ⟨rfl, rfl⟩ := List.cons.inj isText
    exact noComment (.inl ⟨rfl, rfl⟩)
  have noBlock : ¬ "/*".toList.isPrefixOf (c :: rest) = true := by
    intro block
    obtain ⟨after, isText⟩ := List.isPrefixOf_iff_prefix.mp block
    obtain ⟨rfl, rfl⟩ := List.cons.inj isText
    exact noComment (.inr ⟨rfl, rfl⟩)
  rw [stripFrom, unquoted]
  dsimp only
  rw [if_neg noLine, if_neg noBlock]

/-- The stripper leaves what is left of the text, by induction on its length. -/
theorem strips_of_stripFrom {text out : List Char} (stripped : stripFrom text = some out)
    : Strips text out := by
  induction isLength : text.length using Nat.strong_induction_on generalizing text out with
  | _ length ih =>
      subst isLength
      cases text with
      | nil =>
          rw [stripFrom] at stripped
          rw [← Option.some.inj stripped]
          exact .done
      | cons c rest =>
          cases opens : closers.lookup c with
          | some closer =>
              rw [stripFrom_quoted opens] at stripped
              obtain ⟨⟨quoted, after⟩, cut, kept⟩ := Option.bind_eq_some_iff.mp stripped
              obtain ⟨out, later, rfl⟩ := Option.map_eq_some_iff.mp kept
              obtain ⟨body, isOpen, rfl, rfl⟩ := cutAfter_closer_iff.mp cut
              have shorter : after.length < (c :: (body ++ closer :: after)).length := by
                simp only [List.length_cons, List.length_append]
                omega
              simpa using Strips.quoted opens isOpen (ih _ shorter later rfl)
          | none =>
              by_cases comment : OpensComment c rest
              · rcases comment with ⟨rfl, next⟩ | ⟨rfl, next⟩
                · obtain ⟨rest, rfl⟩ := List.head?_eq_some_iff.mp next
                  rw [stripFrom_line] at stripped
                  obtain ⟨comment, left, rfl, inLine, ends⟩ := exists_line rest
                  rw [dropWhile_line inLine ends] at stripped
                  refine .line inLine ends (ih _ ?_ stripped rfl)
                  simp only [List.length_cons, List.length_append]
                  omega
                · obtain ⟨rest, rfl⟩ := List.head?_eq_some_iff.mp next
                  rw [stripFrom_block] at stripped
                  obtain ⟨⟨before, after⟩, cut, kept⟩ := Option.bind_eq_some_iff.mp stripped
                  obtain ⟨out, later, rfl⟩ := Option.map_eq_some_iff.mp kept
                  obtain ⟨comment, isOpen, rfl, rfl⟩ := cutAfter_block_iff.mp cut
                  refine .block isOpen (ih _ ?_ later rfl)
                  simp only [List.length_cons, List.length_append]
                  omega
              · rw [stripFrom_other opens comment] at stripped
                obtain ⟨out, later, rfl⟩ := Option.map_eq_some_iff.mp stripped
                exact .other opens comment (ih _ (by simp) later rfl)

/-- What is left of a text is what the stripper leaves, by induction on the text's parts. -/
theorem Strips.stripFrom_eq {text out : List Char} (strips : Strips text out)
    : stripFrom text = some out := by
  induction strips with
  | done => rw [stripFrom]
  | @quoted opener closer text rest out opens isOpen later ih =>
      rw [stripFrom_quoted opens, cutAfter_closer_iff.mpr ⟨text, isOpen, rfl, rfl⟩]
      simp [ih]
  | line inLine ends later ih => rw [stripFrom_line, dropWhile_line inLine ends, ih]
  | @block comment rest out isOpen later ih =>
      rw [stripFrom_block, cutAfter_block_iff.mpr ⟨comment, isOpen, rfl, rfl⟩]
      simp [ih]
  | other unquoted noComment later ih =>
      rw [stripFrom_other unquoted noComment, ih, Option.map_some]

/-- The stripper has a result just when the text is terminated. -/
theorem stripFrom_eq_none_iff {text : List Char}
    : stripFrom text = none ↔ ¬ Terminated text := by
  constructor
  · intro nothing terminated
    obtain ⟨out, strips⟩ := strips_of_terminated terminated
    exact nomatch nothing.symm.trans strips.stripFrom_eq
  · intro open_
    cases stripped : stripFrom text with
    | none => rfl
    | some out => exact absurd (strips_of_stripFrom stripped).terminated open_

--------------------------------------------------------------------------------
-- A text without comments
--------------------------------------------------------------------------------

/-- A text of quoted text and of other characters that open no comment. -/
inductive Bare : List Char → Prop
  | done : Bare []
  | quoted {opener closer : Char} {text rest : List Char}
      (opens : closers.lookup opener = some closer) (isOpen : closer ∉ text)
      (later : Bare rest)
      : Bare (opener :: (text ++ closer :: rest))
  | other {c : Char} {rest : List Char} (unquoted : closers.lookup c = none)
      (noComment : ¬ OpensComment c rest) (later : Bare rest)
      : Bare (c :: rest)

/-- A character that opens nothing is kept. -/
theorem Strips.forward {c : Char} {rest out : List Char} (strips : Strips (c :: rest) out)
    (unquoted : closers.lookup c = none) (noComment : ¬ OpensComment c rest)
    : ∃ left, out = c :: left ∧ Strips rest left := by
  cases strips with
  | quoted opens => exact nomatch unquoted.symm.trans opens
  | line => exact absurd (.inl ⟨rfl, rfl⟩) noComment
  | block => exact absurd (.inr ⟨rfl, rfl⟩) noComment
  | other _ _ later => exact ⟨_, rfl, later⟩

/-- What follows a line comment begins as what is left of it. -/
theorem Strips.head_of_line {rest out : List Char} (strips : Strips rest out)
    (ends : rest.head? = none ∨ rest.head? = some '\n')
    : out.head? = rest.head? := by
  cases strips with
  | done => rfl
  | quoted => rfl
  | line => simp at ends
  | block => simp at ends
  | other => rfl

/-- A character that is left was there, unless it is the blank of a comment or a newline. -/
theorem Strips.backward {c : Char} {text left : List Char} (strips : Strips text (c :: left))
    (unquoted : closers.lookup c = none) (noBlank : c ≠ ' ') (noNewline : c ≠ '\n')
    : ∃ rest, text = c :: rest ∧ ¬ OpensComment c rest ∧ Strips rest left := by
  cases strips with
  | quoted opens => exact nomatch unquoted.symm.trans opens
  | line inLine ends later =>
      have same := later.head_of_line ends
      rw [List.head?_cons] at same
      rcases ends with nothing | newline
      · exact nomatch same.trans nothing
      · exact absurd (Option.some.inj (same.trans newline)) noNewline
  | block => exact absurd rfl noBlank
  | other _ noComment later => exact ⟨_, rfl, noComment, later⟩

/-- What is left opens a comment only where the text does. -/
theorem Strips.opensComment {c : Char} {rest left : List Char} (strips : Strips rest left)
    (opens : OpensComment c left)
    : OpensComment c rest := by
  rcases opens with ⟨isDash, next⟩ | ⟨isSlash, next⟩
  · obtain ⟨tail, rfl⟩ := List.head?_eq_some_iff.mp next
    obtain ⟨later, rfl, _⟩ := strips.backward (by decide) (by decide) (by decide)
    exact .inl ⟨isDash, rfl⟩
  · obtain ⟨tail, rfl⟩ := List.head?_eq_some_iff.mp next
    obtain ⟨later, rfl, _⟩ := strips.backward (by decide) (by decide) (by decide)
    exact .inr ⟨isSlash, rfl⟩

/-- What is left of a text is bare. -/
theorem Strips.bare {text out : List Char} (strips : Strips text out) : Bare out := by
  induction strips with
  | done => exact .done
  | quoted opens isOpen _ ih => exact .quoted opens isOpen ih
  | line _ _ _ ih => exact ih
  | block _ _ ih => exact .other (by decide) (by simp [OpensComment]) ih
  | other unquoted noComment later ih =>
      exact .other unquoted (fun opens => noComment (later.opensComment opens)) ih

/-- Nothing is stripped from a bare text. -/
theorem Bare.strips {text : List Char} (bare : Bare text) : Strips text text := by
  induction bare with
  | done => exact .done
  | quoted opens isOpen _ ih => exact .quoted opens isOpen ih
  | other unquoted noComment _ ih => exact .other unquoted noComment ih

/-- A quote closes itself, and a bracket is closed by the other. -/
theorem closers_lookup_iff {opener closer : Char}
    : closers.lookup opener = some closer
      ↔ Sqlite.isQuote opener = true ∧ closer = opener ∨ opener = '[' ∧ closer = ']' := by
  by_cases quote : opener = '\'' ∨ opener = '"' ∨ opener = '`' ∨ opener = '['
  · rcases quote with rfl | rfl | rfl | rfl
    · simp [show closers.lookup '\'' = some '\'' by decide, Sqlite.isQuote, eq_comm]
    · simp [show closers.lookup '"' = some '"' by decide, Sqlite.isQuote, eq_comm]
    · simp [show closers.lookup '`' = some '`' by decide, Sqlite.isQuote, eq_comm]
    · simp [show closers.lookup '[' = some ']' by decide, Sqlite.isQuote, eq_comm]
  · have list : closers = [('\'', '\''), ('"', '"'), ('`', '`'), ('[', ']')] := by decide
    simp only [not_or] at quote
    simp [list, List.lookup_cons, Sqlite.isQuote, beq_false_of_ne, quote]

/-- What is trimmed neither opens nor closes anything. -/
theorem closers_of_isTrimmed {c : Char} (trimmed : isTrimmed c = true)
    : closers.lookup c = none ∧ ∀ opener, closers.lookup opener ≠ some c := by
  have noMark : Sqlite.isQuote c = false ∧ c ≠ '[' ∧ c ≠ ']' := by
    refine ⟨Bool.eq_false_iff.mpr fun quote => ?_, ?_, ?_⟩
    · simp only [Sqlite.isQuote, Bool.or_eq_true, decide_eq_true_eq] at quote
      rcases quote with (rfl | rfl) | rfl <;> exact absurd trimmed (by decide)
    · intro h
      obtain rfl := h
      exact absurd trimmed (by decide)
    · intro h
      obtain rfl := h
      exact absurd trimmed (by decide)
  have opensNot : ∀ opener, closers.lookup opener ≠ some c := by
    intro opener opens
    rcases closers_lookup_iff.mp opens with ⟨quote, rfl⟩ | ⟨_, isBracket⟩
    · exact nomatch noMark.1.symm.trans quote
    · exact noMark.2.2 isBracket
  refine ⟨?_, opensNot⟩
  cases opens : closers.lookup c with
  | none => rfl
  | some closer =>
      rcases closers_lookup_iff.mp opens with ⟨quote, _⟩ | ⟨isBracket, _⟩
      · exact nomatch noMark.1.symm.trans quote
      · exact absurd isBracket noMark.2.1

/-- A bare text without the blanks before it is bare. -/
theorem Bare.dropWhile {text : List Char} (bare : Bare text)
    : Bare (text.dropWhile isTrimmed) := by
  induction bare with
  | done => exact .done
  | @quoted opener closer text rest opens isOpen later ih =>
      have kept : ¬ isTrimmed opener = true := fun trimmed =>
        nomatch (closers_of_isTrimmed trimmed).1.symm.trans opens
      rw [List.dropWhile_cons_of_neg kept]
      exact .quoted opens isOpen later
  | @other c rest unquoted noComment later ih =>
      by_cases trimmed : isTrimmed c = true
      · rw [List.dropWhile_cons_of_pos trimmed]
        exact ih
      · rw [List.dropWhile_cons_of_neg trimmed]
        exact .other unquoted noComment later

/-- A bare text without its last character is bare if that is a blank, by induction on the text
before it.
-/
theorem Bare.dropLast {text : List Char} {last : Char} (bare : Bare (text ++ [last]))
    (trimmed : isTrimmed last = true)
    : Bare text := by
  generalize isWhole : text ++ [last] = whole at bare
  induction bare generalizing text with
  | done => simp at isWhole
  | @quoted opener closer body rest opens isOpen later ih =>
      rcases List.eq_nil_or_concat rest with rfl | ⟨before, c, rfl⟩
      · have parts : text ++ [last] = (opener :: body) ++ [closer] := isWhole
        have same : last = closer := List.singleton_inj.mp (List.append_inj' parts rfl).2
        exact absurd (same ▸ opens) ((closers_of_isTrimmed trimmed).2 opener)
      · have parts : text ++ [last] = (opener :: (body ++ closer :: before)) ++ [c] := by
          simpa using isWhole
        obtain ⟨rfl, isLast⟩ := List.append_inj' parts rfl
        exact .quoted opens isOpen (ih (by rw [isLast, List.concat_eq_append]))
  | @other c rest unquoted noComment later ih =>
      cases text with
      | nil => exact .done
      | cons first text =>
          obtain ⟨rfl, rfl⟩ := List.cons.inj isWhole
          refine .other unquoted (fun opens => noComment ?_) (ih rfl)
          rcases opens with ⟨isDash, next⟩ | ⟨isSlash, next⟩
          · exact .inl ⟨isDash, by simp [next]⟩
          · exact .inr ⟨isSlash, by simp [next]⟩

/-- A bare text without the blanks behind it is bare, by induction on the text from its end. -/
theorem Bare.rdropWhile {text : List Char} (bare : Bare text)
    : Bare (text.rdropWhile isTrimmed) := by
  induction text using List.reverseRecOn with
  | nil => exact bare
  | append_singleton text last ih =>
      by_cases trimmed : isTrimmed last = true
      · rw [List.rdropWhile_concat_pos _ _ _ trimmed]
        exact ih (bare.dropLast trimmed)
      · rw [List.rdropWhile_concat_neg _ _ _ trimmed]
        exact bare

--------------------------------------------------------------------------------
-- The stripped text
--------------------------------------------------------------------------------

/-- A terminated text is stripped to what is left of it, without the blanks around it. -/
theorem stripSqlComments_eq {sql : String} {out : List Char} (strips : Strips sql.toList out)
    : stripSqlComments sql = String.ofList (TextParts.strip isTrimmed out) := by
  rw [stripSqlComments, strips.stripFrom_eq]
  exact congrArg (fun text => String.ofList (TextParts.strip isTrimmed text)) String.toList_ofList

theorem stripSqlComments_open {sql : String} (open_ : ¬ Terminated sql.toList)
    : stripSqlComments sql = sql := by
  rw [stripSqlComments, stripFrom_eq_none_iff.mpr open_]

/-- Stripping a stripped text changes nothing. -/
theorem stripSqlComments_idempotent (sql : String)
    : stripSqlComments (stripSqlComments sql) = stripSqlComments sql := by
  by_cases terminated : Terminated sql.toList
  · obtain ⟨out, strips⟩ := strips_of_terminated terminated
    rw [stripSqlComments_eq strips]
    have bare : Bare (TextParts.strip isTrimmed out) := strips.bare.dropWhile.rdropWhile
    have again : Strips (String.ofList (TextParts.strip isTrimmed out)).toList
        (TextParts.strip isTrimmed out) := by
      rw [String.toList_ofList]
      exact bare.strips
    rw [stripSqlComments_eq again, TextParts.strip_strip]
  · rw [stripSqlComments_open terminated, stripSqlComments_open terminated]

end ControlPlane.Migrations
