import Mathlib.Data.List.Find
import ControlPlane.Migrations.CommentFree

/-! What SQLite reads of a migration is what it reads of it without the comments: the modes of the
stripper and the lexical rules of SQLite go through the text side by side.
-/

namespace ControlPlane.Migrations

open ControlPlane.Library
open ControlPlane.Library.Sqlite

--------------------------------------------------------------------------------
-- Recognisers that do not see the comments
--------------------------------------------------------------------------------

/-- A recogniser takes of a text without its comments what it takes of the text. -/
def Keeps (recogniser : Recogniser) : Prop :=
  ∀ text out : List Char, Strips text out →
    ∃ left, recogniser.read out = ((recogniser.read text).1, left)
      ∧ Strips (recogniser.read text).2 left

/-- A character that is neither a quote nor a blank, and begins no comment. -/
structure Wordy (c : Char) : Prop where
  unquoted : closers.lookup c = none
  noBlank : c ≠ ' '
  noNewline : c ≠ '\n'
  noDash : c ≠ '-'
  noSlash : c ≠ '/'

theorem Wordy.opensNothing {c : Char} (wordy : Wordy c) (rest : List Char)
    : ¬ OpensComment c rest := by
  intro h
  rcases h with ⟨isDash, _⟩ | ⟨isSlash, _⟩
  · exact wordy.noDash isDash
  · exact wordy.noSlash isSlash

/-- A wordy character is kept. -/
theorem Strips.wordy {c : Char} {rest out : List Char} (strips : Strips (c :: rest) out)
    (wordy : Wordy c)
    : ∃ left, out = c :: left ∧ Strips rest left :=
  strips.forward wordy.unquoted (wordy.opensNothing rest)

/-- A wordy character that is left was there. -/
theorem Strips.wordy_left {c : Char} {text left : List Char} (strips : Strips text (c :: left))
    (wordy : Wordy c)
    : ∃ rest, text = c :: rest ∧ Strips rest left := by
  obtain ⟨rest, isText, _, later⟩ :=
    strips.backward wordy.unquoted wordy.noBlank wordy.noNewline
  exact ⟨rest, isText, later⟩

/-- All wordy characters of a kind, by induction on the text. -/
theorem keeps_many {kind : Char → Bool} (wordy : ∀ c, kind c = true → Wordy c)
    : Keeps (Recogniser.many kind) := by
  intro text out strips
  induction text generalizing out with
  | nil =>
      cases strips
      exact ⟨[], rfl, .done⟩
  | cons c rest ih =>
      by_cases isKind : kind c = true
      · obtain ⟨left, rfl, later⟩ := strips.wordy (wordy c isKind)
        obtain ⟨end_, isRead, remains⟩ := ih left later
        obtain ⟨taken, isLeft⟩ := Prod.mk.inj isRead
        refine ⟨end_, ?_, ?_⟩
        · simp only [Recogniser.many, List.takeWhile_cons_of_pos isKind,
            List.dropWhile_cons_of_pos isKind]
          exact Prod.ext (congrArg (c :: ·) taken) isLeft
        · simpa only [Recogniser.many, List.dropWhile_cons_of_pos isKind] using remains
      · refine ⟨out, ?_, ?_⟩
        · cases out with
          | nil => simp [Recogniser.many, isKind]
          | cons d left =>
              have other : ¬ kind d = true := by
                intro isOther
                obtain ⟨_, same, _⟩ := strips.wordy_left (wordy d isOther)
                exact isKind ((List.cons.inj same).1 ▸ isOther)
              simp [Recogniser.many, isKind, other]
        · simpa only [Recogniser.many, List.dropWhile_cons_of_neg isKind] using strips

/-- One recogniser and then another. -/
theorem keeps_andThen {first second : Recogniser} (keepsFirst : Keeps first)
    (keepsSecond : Keeps second)
    : Keeps (first.andThen second) := by
  intro text out strips
  obtain ⟨between, isFirst, remains⟩ := keepsFirst text out strips
  obtain ⟨left, isSecond, later⟩ := keepsSecond _ between remains
  refine ⟨left, ?_, later⟩
  simp only [Recogniser.andThen, isFirst, isSecond]

/-- Characters of these kinds are kept one after another: only a dash needs that no dash can
follow it.
-/
def KeptInOrder : List (Char → Bool) → Prop
  | [] => True
  | kind :: kinds =>
      (∀ c, kind c = true →
        Wordy c ∨ c = '-' ∧ ∃ next ∈ kinds.head?, ∀ d, next d = true → d ≠ '-')
      ∧ KeptInOrder kinds

/-- A text that begins with these kinds does so without its comments, by induction on the kinds. -/
theorem startsAs_forward {kinds : List (Char → Bool)} (kept : KeptInOrder kinds)
    {text out : List Char} (strips : Strips text out)
    (starts : Recogniser.startsAs kinds text = true)
    : Recogniser.startsAs kinds out = true ∧ out.take kinds.length = text.take kinds.length
      ∧ Strips (text.drop kinds.length) (out.drop kinds.length) := by
  induction kinds generalizing text out with
  | nil => exact ⟨rfl, rfl, strips⟩
  | cons kind kinds ih =>
      cases text with
      | nil => exact nomatch starts
      | cons c rest =>
          simp only [Recogniser.startsAs, Bool.and_eq_true] at starts
          have isKept : ∃ left, out = c :: left ∧ Strips rest left := by
            rcases kept.1 c starts.1 with wordy | ⟨rfl, next, isNext, noDash⟩
            · exact strips.wordy wordy
            · refine strips.forward (by decide) ?_
              intro h
              rcases h with ⟨_, dash⟩ | ⟨isSlash, _⟩
              · obtain ⟨later, rfl⟩ := List.head?_eq_some_iff.mp dash
                obtain ⟨others, rfl⟩ := List.head?_eq_some_iff.mp isNext
                simp only [Recogniser.startsAs, Bool.and_eq_true] at starts
                exact noDash '-' starts.2.1 rfl
              · exact absurd isSlash (by decide)
          obtain ⟨left, rfl, later⟩ := isKept
          obtain ⟨outStarts, taken, remains⟩ := ih kept.2 later starts.2
          refine ⟨?_, ?_, remains⟩
          · simp only [Recogniser.startsAs, Bool.and_eq_true]
            exact ⟨starts.1, outStarts⟩
          · simpa using taken

/-- A text without its comments begins with these kinds only if it does with them. -/
theorem startsAs_backward {kinds : List (Char → Bool)} (kept : KeptInOrder kinds)
    {text out : List Char} (strips : Strips text out)
    (starts : Recogniser.startsAs kinds out = true)
    : Recogniser.startsAs kinds text = true := by
  induction kinds generalizing text out with
  | nil => rfl
  | cons kind kinds ih =>
      cases out with
      | nil => exact nomatch starts
      | cons c left =>
          simp only [Recogniser.startsAs, Bool.and_eq_true] at starts
          have wasThere : ∃ rest, text = c :: rest ∧ Strips rest left := by
            rcases kept.1 c starts.1 with wordy | ⟨rfl, _⟩
            · exact strips.wordy_left wordy
            · obtain ⟨rest, isText, _, later⟩ :=
                strips.backward (by decide) (by decide) (by decide)
              exact ⟨rest, isText, later⟩
          obtain ⟨rest, rfl, later⟩ := wasThere
          simp only [Recogniser.startsAs, Bool.and_eq_true]
          exact ⟨starts.1, ih kept.2 later starts.2⟩

/-- The first of some shapes. -/
theorem keeps_oneOf {shapes : List (List (Char → Bool))}
    (kept : ∀ shape ∈ shapes, KeptInOrder shape)
    : Keeps (Recogniser.oneOf shapes) := by
  intro text out strips
  have same : shapes.find? (fun shape => Recogniser.startsAs shape out)
      = shapes.find? (fun shape => Recogniser.startsAs shape text) := by
    refine List.find?_congr fun shape member => Bool.eq_iff_iff.mpr ⟨?_, ?_⟩
    · exact startsAs_backward (kept shape member) strips
    · intro starts
      exact (startsAs_forward (kept shape member) strips starts).1
  simp only [Recogniser.oneOf, same]
  cases found : shapes.find? (fun shape => Recogniser.startsAs shape text) with
  | none => exact ⟨out, rfl, strips⟩
  | some shape =>
      have starts := List.find?_some found
      obtain ⟨_, taken, remains⟩ :=
        startsAs_forward (kept shape (List.mem_of_find?_eq_some found)) strips starts
      exact ⟨out.drop shape.length, Prod.ext taken rfl, remains⟩

/-- The rule of a kind that holds of wordy characters only, before any others. -/
theorem keptInOrder_of_wordy {kinds : List (Char → Bool)}
    (wordy : ∀ kind ∈ kinds, ∀ c, kind c = true → Wordy c)
    : KeptInOrder kinds := by
  induction kinds with
  | nil => trivial
  | cons kind kinds ih =>
      refine ⟨fun c isKind => .inl (wordy kind List.mem_cons_self c isKind), ih ?_⟩
      exact fun other member => wordy other (List.mem_cons_of_mem _ member)

--------------------------------------------------------------------------------
-- The kinds of characters
--------------------------------------------------------------------------------

/-- The quotes, the blanks and the characters that begin a comment. -/
def marks : List Char :=
  "'\"`[ \n-/".toList

/-- A character that is no mark is wordy. -/
theorem wordy_of_not_mem {c : Char} (noMark : c ∉ marks) : Wordy c := by
  have other : ∀ mark ∈ marks, c ≠ mark := by
    intro mark member h
    obtain rfl := h
    exact noMark member
  refine ⟨?_, other ' ' (by decide), other '\n' (by decide), other '-' (by decide),
    other '/' (by decide)⟩
  cases opens : closers.lookup c with
  | none => rfl
  | some closer =>
      rcases closers_lookup_iff.mp opens with ⟨quote, _⟩ | ⟨isBracket, _⟩
      · simp only [isQuote, Bool.or_eq_true, decide_eq_true_eq] at quote
        rcases quote with (single | double) | back
        · exact absurd single (other '\'' (by decide))
        · exact absurd double (other '"' (by decide))
        · exact absurd back (other '`' (by decide))
      · exact absurd isBracket (other '[' (by decide))

/-- A kind that no mark is of is one of wordy characters. -/
theorem wordy_of_kind {kind : Char → Bool} (noMark : marks.any kind = false)
    : ∀ c, kind c = true → Wordy c :=
  fun c isKind => wordy_of_not_mem fun member => List.any_eq_false.mp noMark c member isKind

theorem wordy_idChar : ∀ c, isIdChar c = true → Wordy c :=
  wordy_of_kind (by decide)

theorem wordy_digit : ∀ c, isDigit c = true → Wordy c :=
  wordy_of_kind (by decide)

theorem wordy_decimal : ∀ c, c.isDigit = true → Wordy c :=
  wordy_of_kind (by decide)

/-- A character that a shape of one character asks for. -/
theorem keeps_single {c : Char} (wordy : Wordy c) : Keeps (Recogniser.oneOf [[(· = c)]]) := by
  refine keeps_oneOf fun shape member => ?_
  obtain rfl := List.mem_singleton.mp member
  refine keptInOrder_of_wordy fun kind isKind d isCharacter => ?_
  obtain rfl := List.mem_singleton.mp isKind
  exact of_decide_eq_true isCharacter ▸ wordy

--------------------------------------------------------------------------------
-- The tokens that hold no quote
--------------------------------------------------------------------------------

theorem keeps_exponent : Keeps exponent := by
  unfold exponent
  have letter : ∀ c, (c = 'e' || c = 'E') = true → Wordy c := wordy_of_kind (by decide)
  refine keeps_oneOf fun shape member => ?_
  simp only [List.mem_cons, List.not_mem_nil, or_false] at member
  rcases member with rfl | rfl
  · exact ⟨fun c isLetter => .inl (letter c isLetter),
      fun c isDecimal => .inl (wordy_decimal c isDecimal), trivial⟩
  · refine ⟨fun c isLetter => .inl (letter c isLetter), fun c isSign => ?_,
      fun c isDecimal => .inl (wordy_decimal c isDecimal), trivial⟩
    -- A sign is part of a number only before a digit, so it opens no comment.
    simp only [Bool.or_eq_true, decide_eq_true_eq] at isSign
    rcases isSign with rfl | rfl
    · exact .inl (wordy_of_not_mem (by decide))
    · refine .inr ⟨rfl, Char.isDigit, rfl, fun d isDecimal => ?_⟩
      exact (wordy_decimal d isDecimal).noDash

theorem keeps_digits : Keeps digits :=
  keeps_andThen (keeps_many wordy_digit) (keeps_andThen keeps_exponent
    (keeps_andThen (keeps_many wordy_digit) (keeps_many wordy_idChar)))

theorem keeps_number : Keeps number := by
  have point : Keeps (Recogniser.oneOf [[(· = '.')]]) :=
    keeps_single (wordy_of_not_mem (by decide))
  exact keeps_andThen (keeps_many wordy_digit) (keeps_andThen point keeps_digits)

theorem keeps_operator (c : Char) : Keeps (Recogniser.oneOf (operatorTails c)) := by
  refine keeps_oneOf fun shape member => keptInOrder_of_wordy ?_
  have noMark
      : (operatorTails c).any (fun shape => shape.any fun kind => marks.any kind) = false := by
    unfold operatorTails
    split <;> decide
  have ofShape := List.any_eq_false.mp noMark shape member
  rw [Bool.not_eq_true] at ofShape
  intro kind isKind
  have ofKind := List.any_eq_false.mp ofShape kind isKind
  exact wordy_of_kind (Bool.eq_false_of_not_eq_true ofKind)

--------------------------------------------------------------------------------
-- Variables
--------------------------------------------------------------------------------

/-- A quoted text that one character closes is kept as it is. -/
theorem Strips.of_opener {opener closer : Char} {rest out : List Char}
    (strips : Strips (opener :: rest) out) (opens : closers.lookup opener = some closer)
    : ∃ body behind left, closer ∉ body ∧ rest = body ++ closer :: behind
        ∧ out = opener :: (body ++ closer :: left) ∧ Strips behind left := by
  cases strips with
  | quoted isOpener isOpen later =>
      obtain rfl := Option.some.inj (opens.symm.trans isOpener)
      exact ⟨_, _, _, isOpen, rfl, rfl, later⟩
  | line =>
      have unquoted : closers.lookup '-' = none := by decide
      exact nomatch unquoted.symm.trans opens
  | block =>
      have unquoted : closers.lookup '/' = none := by decide
      exact nomatch unquoted.symm.trans opens
  | other unquoted => exact nomatch unquoted.symm.trans opens

/-- The last character of a list that is not empty is the last one behind another list. -/
theorem getLast?_append_of_mem {front behind : List Char} {c : Char}
    (isLast : c ∈ behind.getLast?)
    : c ∈ (front ++ behind).getLast? := by
  rw [List.getLast?_append, Option.mem_def.mp isLast]
  rfl

/-- A bare text is kept if its last character opens no comment with the rest, by induction on its
parts.
-/
theorem Bare.kept {part rest out : List Char} (bare : Bare part)
    (strips : Strips (part ++ rest) out) (apart : ∀ c ∈ part.getLast?, ¬ OpensComment c rest)
    : ∃ left, out = part ++ left ∧ Strips rest left := by
  induction bare generalizing out with
  | done => exact ⟨out, rfl, strips⟩
  | @quoted opener closer text later opens isOpen _ ih =>
      rw [List.cons_append, List.append_assoc, List.cons_append] at strips
      obtain ⟨body, behind, left, bodyOpen, isRest, rfl, remains⟩ := strips.of_opener opens
      have same := (cutAfter_closer_iff.mpr ⟨text, isOpen, rfl, rfl⟩).symm.trans
        (cutAfter_closer_iff.mpr ⟨body, bodyOpen, isRest, rfl⟩)
      obtain ⟨sameQuoted, rfl⟩ := Prod.mk.inj (Option.some.inj same)
      obtain rfl := List.append_cancel_right sameQuoted
      have apartLater : ∀ c ∈ later.getLast?, ¬ OpensComment c rest := by
        intro c isLast
        have parts : opener :: (text ++ closer :: later)
            = (opener :: (text ++ [closer])) ++ later := by simp
        rw [parts] at apart
        exact apart c (getLast?_append_of_mem isLast)
      obtain ⟨left, rfl, end_⟩ := ih remains apartLater
      exact ⟨left, by simp, end_⟩
  | @other c later unquoted noComment _ ih =>
      have opensNothing : ¬ OpensComment c (later ++ rest) := by
        cases later with
        | nil => exact apart c rfl
        | cons next later => simpa [OpensComment] using noComment
      obtain ⟨left, rfl, remains⟩ := strips.forward unquoted opensNothing
      have apartLater : ∀ d ∈ later.getLast?, ¬ OpensComment d rest := by
        intro d isLast
        have longer : d ∈ ([c] ++ later).getLast? := getLast?_append_of_mem isLast
        exact apart d longer
      obtain ⟨left, rfl, end_⟩ := ih remains apartLater
      exact ⟨left, rfl, end_⟩

/-- A bare text is bare without a first character that opens nothing. -/
theorem Bare.tail {c : Char} {rest : List Char} (bare : Bare (c :: rest))
    (unquoted : closers.lookup c = none)
    : Bare rest := by
  cases bare with
  | quoted opens => exact nomatch unquoted.symm.trans opens
  | other _ _ later => exact later

/-- A character that a suffix stops at is white space or the parenthesis, and is kept. -/
theorem stop_keeps {c : Char} {rest out : List Char}
    (stops : (!isSpace c && decide (c ≠ ')')) = false) (strips : Strips (c :: rest) out)
    : ∃ left, out = c :: left := by
  have plain : closers.lookup c = none ∧ c ≠ '-' ∧ c ≠ '/' := by
    simp only [isSpace, Bool.and_eq_false_iff, Bool.not_eq_false', Bool.or_eq_true,
      decide_eq_true_eq, decide_eq_false_iff_not, not_not] at stops
    rcases stops with ((((rfl | rfl) | rfl) | rfl) | rfl) | rfl <;> decide
  obtain ⟨left, isOut, _⟩ := strips.forward plain.1 (by simp [OpensComment, plain.2])
  exact ⟨left, isOut⟩

/-- A suffix goes up to its parenthesis, or to what stops it. -/
theorem suffix_read {part : List Char}
    (inside : ∀ c ∈ part, (!isSpace c && decide (c ≠ ')')) = true) {rest : List Char}
    (stops : ∀ c ∈ rest.head?, (!isSpace c && decide (c ≠ ')')) = false)
    : suffix.read (part ++ rest)
      = (part ++ ((Recogniser.oneOf [[(· = ')')]]).read rest).1,
        ((Recogniser.oneOf [[(· = ')')]]).read rest).2) := by
  have cut : (Recogniser.many fun c => !isSpace c && c ≠ ')').read (part ++ rest)
      = (part, rest) := by
    simp only [Recogniser.many]
    rw [List.takeWhile_append_of_pos inside, List.dropWhile_append_of_pos inside]
    cases rest with
    | nil => simp
    | cons c rest =>
        have stopped := stops c rfl
        rw [List.takeWhile_cons_of_neg (by simpa using stopped),
          List.dropWhile_cons_of_neg (by simpa using stopped), List.append_nil]
  simp only [suffix, Recogniser.andThen, cut]

/-- The suffix of a variable, if it is bare. -/
theorem suffix_keeps {text out : List Char} (strips : Strips text out)
    (bare : Bare (suffix.read text).1)
    : ∃ left, suffix.read out = ((suffix.read text).1, left)
        ∧ Strips (suffix.read text).2 left := by
  obtain ⟨part, rest, isText, inside, stops⟩ : ∃ part rest, text = part ++ rest
      ∧ (∀ c ∈ part, (!isSpace c && decide (c ≠ ')')) = true)
      ∧ ∀ c ∈ rest.head?, (!isSpace c && decide (c ≠ ')')) = false := by
    have stopped := List.head?_dropWhile_not (fun c => !isSpace c && decide (c ≠ ')')) text
    refine ⟨text.takeWhile fun c => !isSpace c && decide (c ≠ ')'),
      text.dropWhile fun c => !isSpace c && decide (c ≠ ')'),
      List.takeWhile_append_dropWhile.symm, ?_, fun c isHead => ?_⟩
    · intro c member
      have isInside := List.mem_takeWhile_imp member
      exact isInside
    · rw [Option.mem_def.mp isHead] at stopped
      simpa using stopped
  subst isText
  have isRead : ∀ {after : List Char},
      (∀ c ∈ after.head?, (!isSpace c && decide (c ≠ ')')) = false) →
      suffix.read (part ++ after)
        = (part ++ ((Recogniser.oneOf [[(· = ')')]]).read after).1,
          ((Recogniser.oneOf [[(· = ')')]]).read after).2) := suffix_read inside
  rw [isRead stops] at bare ⊢
  -- The text before the rest is kept, and then the parenthesis if there is one.
  have keptRest : ∃ left, out = part ++ left ∧ Strips rest left := by
    cases rest with
    | nil =>
        rw [read_nil, List.append_nil] at bare
        exact bare.kept strips fun c _ => by simp [OpensComment]
    | cons c rest =>
        by_cases closes : c = ')'
        · subst closes
          have taken : (Recogniser.oneOf [[(· = ')')]]).read (')' :: rest) = ([')'], rest) := by
            simp [Recogniser.oneOf, Recogniser.startsAs]
          rw [taken] at bare
          have withParenthesis : Strips ((part ++ [')']) ++ rest) out := by simpa using strips
          obtain ⟨left, rfl, later⟩ :=
            bare.kept withParenthesis (by simp [OpensComment])
          exact ⟨')' :: left, by simp, .other (by decide) (by simp [OpensComment]) later⟩
        · have taken : (Recogniser.oneOf [[(· = ')')]]).read (c :: rest) = ([], c :: rest) := by
            simp [Recogniser.oneOf, Recogniser.startsAs, closes]
          rw [taken, List.append_nil] at bare
          refine bare.kept strips fun d _ opens => ?_
          rcases opens with ⟨_, dash⟩ | ⟨_, star⟩
          · exact absurd (stops '-' dash) (by decide)
          · exact absurd (stops '*' star) (by decide)
  obtain ⟨left, rfl, later⟩ := keptRest
  have leftStops : ∀ c ∈ left.head?, (!isSpace c && decide (c ≠ ')')) = false := by
    cases rest with
    | nil =>
        cases later
        simp
    | cons c rest =>
        obtain ⟨tail, rfl⟩ := stop_keeps (stops c rfl) later
        simpa using stops c rfl
  obtain ⟨end_, isEnd, remains⟩ :=
    keeps_single (c := ')') (wordy_of_not_mem (by decide)) rest left later
  refine ⟨end_, ?_, remains⟩
  rw [isRead leftStops, isEnd]

/-- What follows the sigil of a variable, if it is bare. -/
theorem variableIn_keeps {named : Bool} {text out : List Char} (strips : Strips text out)
    (bare : Bare (variableIn named text).1)
    : ∃ left, variableIn named out = ((variableIn named text).1, left)
        ∧ Strips (variableIn named text).2 left := by
  induction named, text using variableIn.induct generalizing out with
  | case1 named =>
      cases strips
      exact ⟨[], by simp [variableIn], by simpa [variableIn] using Strips.done⟩
  | case2 named c rest isName ih =>
      have read : variableIn named (c :: rest)
          = (c :: (variableIn true rest).1, (variableIn true rest).2) := by
        rw [variableIn, if_pos isName]
      rw [read] at bare ⊢
      obtain ⟨left, rfl, later⟩ := strips.wordy (wordy_idChar c isName)
      obtain ⟨end_, isRead, remains⟩ :=
        ih later (bare.tail (wordy_idChar c isName).unquoted)
      refine ⟨end_, ?_, remains⟩
      rw [variableIn, if_pos isName, isRead]
  | case3 named c rest other opens =>
      have read : variableIn named (c :: rest)
          = (c :: (suffix.read rest).1, (suffix.read rest).2) := by
        rw [variableIn, if_neg other, if_pos opens]
      rw [read] at bare ⊢
      have wordy : Wordy c := opens.1 ▸ wordy_of_not_mem (by decide)
      obtain ⟨left, rfl, later⟩ := strips.wordy wordy
      obtain ⟨end_, isRead, remains⟩ :=
        suffix_keeps later (bare.tail wordy.unquoted)
      refine ⟨end_, ?_, remains⟩
      rw [variableIn, if_neg other, if_pos opens, isRead]
  | case4 named c rest other closed double ih =>
      obtain ⟨rfl, next⟩ := double
      obtain ⟨rest, rfl⟩ := List.head?_eq_some_iff.mp next
      have read : variableIn named (':' :: ':' :: rest)
          = (':' :: ':' :: (variableIn named rest).1, (variableIn named rest).2) := by
        rw [variableIn, if_neg other, if_neg closed, if_pos ⟨rfl, rfl⟩]
        rfl
      rw [read] at bare ⊢
      have wordy : Wordy ':' := wordy_of_not_mem (by decide)
      obtain ⟨behindFirst, rfl, laterFirst⟩ := strips.wordy wordy
      obtain ⟨left, rfl, later⟩ := laterFirst.wordy wordy
      obtain ⟨end_, isRead, remains⟩ :=
        ih later ((bare.tail wordy.unquoted).tail wordy.unquoted)
      refine ⟨end_, ?_, remains⟩
      rw [variableIn, if_neg other, if_neg closed, if_pos ⟨rfl, rfl⟩, List.tail_cons, isRead]
      rfl
  | case5 named c rest other closed single =>
      have read : variableIn named (c :: rest) = ([], c :: rest) := by
        rw [variableIn, if_neg other, if_neg closed, if_neg single]
      rw [read]
      refine ⟨out, ?_, strips⟩
      cases out with
      | nil => rw [variableIn]
      | cons d left =>
          -- What would go on in the text left would go on in the text.
          have otherLeft : ¬ isIdChar d = true := by
            intro isName
            obtain ⟨_, same, _⟩ := strips.wordy_left (wordy_idChar d isName)
            exact other ((List.cons.inj same).1 ▸ isName)
          have closedLeft : ¬ (d = '(' ∧ named = true) := by
            intro h
            obtain ⟨rfl, isNamed⟩ := h
            obtain ⟨_, same, _⟩ := strips.wordy_left (wordy_of_not_mem (by decide))
            exact closed ⟨(List.cons.inj same).1, isNamed⟩
          have singleLeft : ¬ (d = ':' ∧ left.head? = some ':') := by
            intro h
            obtain ⟨rfl, next⟩ := h
            obtain ⟨tail, rfl⟩ := List.head?_eq_some_iff.mp next
            have wordy : Wordy ':' := wordy_of_not_mem (by decide)
            obtain ⟨_, same, later⟩ := strips.wordy_left wordy
            obtain ⟨_, rfl, _⟩ := later.wordy_left wordy
            obtain ⟨rfl, rfl⟩ := List.cons.inj same
            exact single ⟨rfl, rfl⟩
          rw [variableIn, if_neg otherLeft, if_neg closedLeft, if_neg singleLeft]

--------------------------------------------------------------------------------
-- The tokens that hold a quote
--------------------------------------------------------------------------------

/-- A quote that is left was there. -/
theorem Strips.quote_left {quote : Char} (isQuote : Sqlite.isQuote quote = true)
    {text left : List Char} (strips : Strips text (quote :: left))
    : text.head? = some quote := by
  have opens : closers.lookup quote = some quote := closers_lookup_iff.mpr (.inl ⟨isQuote, rfl⟩)
  cases strips with
  | quoted => rfl
  | line _ ends later =>
      have same := later.head_of_line ends
      rw [List.head?_cons] at same
      rcases ends with nothing | newline
      · exact nomatch same.trans nothing
      · rw [Option.some.inj (same.trans newline)] at isQuote
        exact absurd isQuote (by decide)
  | block => exact absurd isQuote (by decide)
  | other unquoted => exact nomatch unquoted.symm.trans opens

/-- A quoted text is kept, with the ones right behind it, by induction on the text's parts. -/
theorem quotedIn_keeps {quote : Char} (isQuote : Sqlite.isQuote quote = true)
    {text out : List Char} (strips : Strips text out)
    : ∀ rest, text = quote :: rest →
        ∃ outRest left, out = quote :: outRest
          ∧ Recogniser.quotedIn quote outRest = ((Recogniser.quotedIn quote rest).1, left)
          ∧ Strips (Recogniser.quotedIn quote rest).2 left := by
  have opens : closers.lookup quote = some quote := closers_lookup_iff.mpr (.inl ⟨isQuote, rfl⟩)
  induction strips with
  | done => exact nofun
  | @quoted opener closer body rest out isOpener isOpen later ih =>
      intro behind isText
      obtain ⟨rfl, rfl⟩ := List.cons.inj isText
      obtain rfl : closer = opener := Option.some.inj (isOpener.symm.trans opens)
      refine ⟨body ++ closer :: out, ?_⟩
      by_cases doubled : rest.head? = some closer
      · obtain ⟨more, rfl⟩ := List.head?_eq_some_iff.mp doubled
        obtain ⟨outRest, left, rfl, isRead, remains⟩ := ih more rfl
        rw [Recogniser.quotedIn_double isOpen, Recogniser.quotedIn_double isOpen, isRead]
        exact ⟨left, rfl, rfl, remains⟩
      · have single : out.head? ≠ some closer := by
          intro next
          obtain ⟨tail, rfl⟩ := List.head?_eq_some_iff.mp next
          exact doubled (later.quote_left isQuote)
        rw [Recogniser.quotedIn_close isOpen doubled, Recogniser.quotedIn_close isOpen single]
        exact ⟨out, rfl, rfl, later⟩
  | line =>
      intro rest isText
      rw [← (List.cons.inj isText).1] at isQuote
      exact absurd isQuote (by decide)
  | block =>
      intro rest isText
      rw [← (List.cons.inj isText).1] at isQuote
      exact absurd isQuote (by decide)
  | other unquoted =>
      intro rest isText
      rw [(List.cons.inj isText).1] at unquoted
      exact nomatch unquoted.symm.trans opens

theorem blob_read {body : List Char} (isOpen : '\'' ∉ body) (behind : List Char)
    : blob.read ('\'' :: (body ++ '\'' :: behind)) = ('\'' :: (body ++ ['\'']), behind) := by
  have closes := Recogniser.throughIn_close isOpen behind
  simp [blob, Recogniser.andThen, Recogniser.oneOf, Recogniser.startsAs, Recogniser.through,
    closes]

end ControlPlane.Migrations
