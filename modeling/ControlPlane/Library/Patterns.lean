import Mathlib.Computability.Language

/-! Regular expressions as an engine reads them: it tries the ways to match in an order, and takes
the first. Which texts a pattern matches does not depend on the order, but what it captures may.
-/

namespace ControlPlane.Library

/-- An expression. A repetition is greedy, and of one class of items. -/
inductive Pattern (α : Type*)
  | empty
  | one (accepts : α → Bool)
  | many (accepts : α → Bool) (least : Nat) (most : Option Nat)
  | seq (first second : Pattern α)
  | alt (first second : Pattern α)

variable {α β : Type*}

namespace Pattern

-----------------------------------------------------------------------------------------
-- The engine
-----------------------------------------------------------------------------------------

/-- How many items a repetition takes at most. -/
def longest (accepts : α → Bool) (most : Option Nat) (text : List α) : Nat :=
  let run := (text.takeWhile accepts).length
  most.elim run (min run)

/-- The ways to match the front of a text, in the order they are tried: what is taken, and what is
left.
-/
def runs : Pattern α → List α → List (List α × List α)
  | .empty, text => [([], text)]
  | .one _, [] => []
  | .one accepts, item :: rest => if accepts item then [([item], rest)] else []
  | .many accepts least most, text =>
      ((List.range (longest accepts most text + 1)).reverse.filter (least ≤ ·)).map text.splitAt
  | .seq first second, text =>
      (runs first text).flatMap fun front =>
        (runs second front.2).map fun back => (front.1 ++ back.1, back.2)
  | .alt first second, text => runs first text ++ runs second text

/-- The whole text matches. -/
def test (pattern : Pattern α) (text : List α) : Bool :=
  (runs pattern text).any fun run => run.2.isEmpty

-----------------------------------------------------------------------------------------
-- The language
-----------------------------------------------------------------------------------------

def language : Pattern α → Language α
  | .empty => 1
  | .one accepts => { word | ∃ item, accepts item = true ∧ word = [item] }
  | .many accepts least most =>
      { word | (∀ item ∈ word, accepts item = true) ∧ least ≤ word.length
        ∧ ∀ bound, most = some bound → word.length ≤ bound }
  | .seq first second => first.language * second.language
  | .alt first second => first.language + second.language

@[simp] theorem mem_language_empty {word : List α} : word ∈ (@empty α).language ↔ word = [] :=
  Iff.rfl

@[simp] theorem mem_language_one {accepts : α → Bool} {word : List α}
    : word ∈ (one accepts).language ↔ ∃ item, accepts item = true ∧ word = [item] :=
  Iff.rfl

@[simp] theorem mem_language_many {accepts : α → Bool} {least : Nat} {most : Option Nat}
    {word : List α}
    : word ∈ (many accepts least most).language
      ↔ (∀ item ∈ word, accepts item = true) ∧ least ≤ word.length
        ∧ ∀ bound, most = some bound → word.length ≤ bound :=
  Iff.rfl

@[simp] theorem mem_language_seq {first second : Pattern α} {word : List α}
    : word ∈ (seq first second).language
      ↔ ∃ front ∈ first.language, ∃ back ∈ second.language, front ++ back = word :=
  Iff.rfl

@[simp] theorem mem_language_alt {first second : Pattern α} {word : List α}
    : word ∈ (alt first second).language ↔ word ∈ first.language ∨ word ∈ second.language :=
  Iff.rfl

/-- The items a repetition can take are those up to the first that does not fit. -/
theorem le_longest_iff {accepts : α → Bool} {most : Option Nat} {taken rest : List α}
    : taken.length ≤ longest accepts most (taken ++ rest)
      ↔ (∀ item ∈ taken, accepts item = true)
        ∧ ∀ bound, most = some bound → taken.length ≤ bound := by
  have run : taken.length ≤ ((taken ++ rest).takeWhile accepts).length
      ↔ ∀ item ∈ taken, accepts item = true := by
    constructor
    · intro long item member
      have front : taken <+: (taken ++ rest).takeWhile accepts :=
        List.prefix_of_prefix_length_le (List.prefix_append taken rest)
          (List.takeWhile_prefix accepts) long
      exact (List.all_eq_true.mp List.all_takeWhile) item (front.subset member)
    · intro fits
      rw [List.takeWhile_append_of_pos fits, List.length_append]
      exact Nat.le_add_right _ _
  cases most with
  | none => simp [longest, run]
  | some bound => simp [longest, run]

/-- A repetition takes a front of the text. -/
theorem mem_runs_many {accepts : α → Bool} {least : Nat} {most : Option Nat}
    {text taken rest : List α}
    : (taken, rest) ∈ runs (many accepts least most) text
      ↔ text = taken ++ rest ∧ taken ∈ (many accepts least most).language := by
  simp only [runs, List.mem_map, List.mem_filter, List.mem_reverse, List.mem_range,
    decide_eq_true_eq, List.splitAt_eq, Prod.mk.injEq, Nat.lt_succ_iff, mem_language_many]
  constructor
  · intro h
    obtain ⟨count, ⟨within, enough⟩, isTaken, isLeft⟩ := h
    have whole : text = taken ++ rest := by rw [← isTaken, ← isLeft, List.take_append_drop]
    have short : longest accepts most text ≤ text.length := by
      have run := (List.takeWhile_prefix accepts (l := text)).length_le
      cases most with
      | none => exact run
      | some bound => exact (min_le_left _ _).trans run
    have size : taken.length = count := by
      rw [← isTaken, List.length_take, min_eq_left (within.trans short)]
    rw [whole, ← size] at within
    obtain ⟨fits, bounded⟩ := le_longest_iff.mp within
    exact ⟨whole, fits, size ▸ enough, bounded⟩
  · intro h
    obtain ⟨rfl, fits, enough, bounded⟩ := h
    exact ⟨taken.length, ⟨le_longest_iff.mpr ⟨fits, bounded⟩, enough⟩, by simp, by simp⟩

/-- A way to match takes a word of the language off the front, and every such word is taken by
some way. By induction on the pattern.
-/
theorem mem_runs {pattern : Pattern α} {text taken rest : List α}
    : (taken, rest) ∈ runs pattern text ↔ text = taken ++ rest ∧ taken ∈ pattern.language := by
  induction pattern generalizing text taken rest with
  | empty =>
      simp only [runs, List.mem_singleton, Prod.mk.injEq, mem_language_empty]
      constructor
      · intro h
        obtain ⟨rfl, rfl⟩ := h
        exact ⟨rfl, rfl⟩
      · intro h
        obtain ⟨rfl, rfl⟩ := h
        exact ⟨rfl, rfl⟩
  | one accepts =>
      rw [mem_language_one]
      cases text with
      | nil =>
          refine iff_of_false List.not_mem_nil ?_
          intro h
          obtain ⟨whole, item, _, rfl⟩ := h
          exact nomatch whole
      | cons item later =>
          rw [runs]
          split
          next fits =>
            rw [List.mem_singleton, Prod.mk.injEq]
            constructor
            · intro h
              obtain ⟨rfl, rfl⟩ := h
              exact ⟨rfl, item, fits, rfl⟩
            · intro h
              obtain ⟨whole, other, _, rfl⟩ := h
              cases whole
              exact ⟨rfl, rfl⟩
          next unfit =>
            refine iff_of_false List.not_mem_nil ?_
            intro h
            obtain ⟨whole, other, fits, rfl⟩ := h
            cases whole
            exact unfit fits
  | many accepts least most => exact mem_runs_many
  | seq first second ihFirst ihSecond =>
      simp only [runs, List.mem_flatMap, List.mem_map, Prod.exists, Prod.mk.injEq,
        mem_language_seq, ihFirst, ihSecond]
      constructor
      · intro h
        obtain ⟨front, _, ⟨rfl, inFirst⟩, back, _, ⟨rfl, inSecond⟩, rfl, rfl⟩ := h
        exact ⟨(List.append_assoc ..).symm, front, inFirst, back, inSecond, rfl⟩
      · intro h
        obtain ⟨rfl, front, inFirst, back, inSecond, rfl⟩ := h
        exact ⟨front, back ++ rest, ⟨List.append_assoc .., inFirst⟩, back, rest,
          ⟨rfl, inSecond⟩, rfl, rfl⟩
  | alt first second ihFirst ihSecond =>
      rw [runs, List.mem_append, ihFirst, ihSecond, mem_language_alt, and_or_left]

/-- The whole text matches exactly if it is in the language. -/
theorem test_iff {pattern : Pattern α} {text : List α}
    : pattern.test text = true ↔ text ∈ pattern.language := by
  rw [test, List.any_eq_true]
  constructor
  · intro h
    obtain ⟨⟨taken, rest⟩, isRun, isWhole⟩ := h
    obtain ⟨whole, inLanguage⟩ := mem_runs.mp isRun
    have nothing : rest = [] := List.isEmpty_iff.mp isWhole
    rw [nothing, List.append_nil] at whole
    exact whole ▸ inLanguage
  · intro inLanguage
    exact ⟨(text, []), mem_runs.mpr ⟨(List.append_nil text).symm, inLanguage⟩, rfl⟩

-----------------------------------------------------------------------------------------
-- Letters, and options
-----------------------------------------------------------------------------------------

/-- A fixed word, up to what the fold makes equal. -/
def spelled [DecidableEq β] (fold : α → β) : List β → Pattern α
  | [] => .empty
  | letter :: later => .seq (.one fun item => fold item = letter) (spelled fold later)

theorem mem_spelled [DecidableEq β] {fold : α → β} {letters : List β} {word : List α}
    : word ∈ (spelled fold letters).language ↔ word.map fold = letters := by
  induction letters generalizing word with
  | nil => simp [spelled]
  | cons letter later ih =>
      simp only [spelled, mem_language_seq, List.map_eq_cons_iff]
      constructor
      · intro h
        obtain ⟨_, ⟨item, isLetter, rfl⟩, back, inLater, rfl⟩ := h
        exact ⟨item, back, rfl, of_decide_eq_true isLetter, ih.mp inLater⟩
      · intro h
        obtain ⟨item, back, rfl, isLetter, isLater⟩ := h
        exact ⟨[item], ⟨item, decide_eq_true isLetter, rfl⟩, back, ih.mpr isLater, rfl⟩

/-- What may be there once. -/
def opt (pattern : Pattern α) : Pattern α :=
  .alt pattern .empty

@[simp] theorem mem_language_opt {pattern : Pattern α} {word : List α}
    : word ∈ (opt pattern).language ↔ word ∈ pattern.language ∨ word = [] :=
  Iff.rfl

/-- A run followed by anything of another class is a longest run, followed by nothing or by what
begins with an item that is not of the run's class.
-/
theorem language_many_tail {accepts wider opens : α → Bool}
    (others : ∀ item, opens item = true ↔ wider item = true ∧ accepts item = false)
    (least : Nat)
    : (seq (many accepts least none) (opt (.seq (one opens) (many wider 0 none)))).language
      = (seq (many accepts least none) (many wider 0 none)).language := by
  ext word
  simp only [mem_language_seq, mem_language_opt]
  constructor
  · intro h
    obtain ⟨run, isRun, tail, isTail, rfl⟩ := h
    refine ⟨run, isRun, tail, ?_, rfl⟩
    rcases isTail with ⟨_, ⟨item, isOpen, rfl⟩, later, ⟨inClass, _⟩, rfl⟩ | rfl
    · refine ⟨fun other member => ?_, Nat.zero_le _, nofun⟩
      rcases List.mem_cons.mp member with rfl | behind
      · exact ((others other).mp isOpen).1
      · exact inClass other behind
    · exact ⟨nofun, Nat.zero_le _, nofun⟩
  · intro h
    obtain ⟨run, ⟨fits, enough, _⟩, tail, ⟨inClass, _⟩, rfl⟩ := h
    -- The run is taken on into the tail, as far as its class goes.
    refine ⟨run ++ tail.takeWhile accepts, ⟨?_, ?_, nofun⟩, tail.dropWhile accepts, ?_, ?_⟩
    · intro item member
      rcases List.mem_append.mp member with before | behind
      · exact fits item before
      · exact (List.all_eq_true.mp List.all_takeWhile) item behind
    · rw [List.length_append]
      exact enough.trans (Nat.le_add_right _ _)
    · cases left : tail.dropWhile accepts with
      | nil => exact .inr rfl
      | cons item later =>
          have inside : ∀ other ∈ item :: later, wider other = true := by
            intro other member
            exact inClass other ((List.dropWhile_sublist accepts).subset (left ▸ member))
          have unfit : accepts item = false := by
            have head := List.head?_dropWhile_not accepts tail
            rw [left] at head
            simpa using head
          refine .inl ⟨[item], ⟨item, (others item).mpr ⟨inside item List.mem_cons_self, unfit⟩,
            rfl⟩, later, ⟨?_, Nat.zero_le _, nofun⟩, rfl⟩
          exact fun other member => inside other (List.mem_cons_of_mem _ member)
    · exact (List.append_assoc ..).trans (by rw [List.takeWhile_append_dropWhile])

end Pattern

-----------------------------------------------------------------------------------------
-- Captures
-----------------------------------------------------------------------------------------

/-- An expression with one group in it. -/
structure Capture (α : Type*) where
  before : Pattern α
  group : Pattern α
  after : Pattern α

namespace Capture

/-- What the group takes of the front of a text, in the order the ways to match are tried. -/
def captures (expression : Capture α) (text : List α) : List (List α) :=
  (expression.before.runs text).flatMap fun front =>
    (expression.group.runs front.2).flatMap fun kept =>
      (expression.after.runs kept.2).map fun _ => kept.1

/-- The group of the match at the front of a text. -/
def atFront (expression : Capture α) (text : List α) : Option (List α) :=
  (expression.captures text).head?

/-- The group of the first match in a text. -/
def exec (expression : Capture α) : List α → Option (List α)
  | [] => expression.atFront []
  | item :: rest => (expression.atFront (item :: rest)).or (expression.exec rest)

variable {expression : Capture α}

/-- The front of a text is a match with a group in it. -/
def Matches (expression : Capture α) (text kept : List α) : Prop :=
  ∃ front back rest, text = front ++ (kept ++ (back ++ rest))
    ∧ front ∈ expression.before.language ∧ kept ∈ expression.group.language
    ∧ back ∈ expression.after.language

theorem mem_captures {text kept : List α}
    : kept ∈ expression.captures text ↔ expression.Matches text kept := by
  simp only [captures, List.mem_flatMap, List.mem_map, Prod.exists, Pattern.mem_runs]
  constructor
  · intro h
    obtain ⟨front, _, ⟨rfl, inBefore⟩, _, _, ⟨rfl, inGroup⟩, back, rest, ⟨rfl, inAfter⟩, rfl⟩ := h
    exact ⟨front, back, rest, rfl, inBefore, inGroup, inAfter⟩
  · intro h
    obtain ⟨front, back, rest, rfl, inBefore, inGroup, inAfter⟩ := h
    exact ⟨front, _, ⟨rfl, inBefore⟩, kept, _, ⟨rfl, inGroup⟩, back, rest, ⟨rfl, inAfter⟩, rfl⟩

theorem matches_of_atFront {text kept : List α} (found : expression.atFront text = some kept)
    : expression.Matches text kept :=
  mem_captures.mp (List.mem_of_head? found)

theorem atFront_eq_none_iff {text : List α}
    : expression.atFront text = none ↔ ∀ kept, ¬ expression.Matches text kept := by
  rw [atFront, List.head?_eq_none_iff, List.eq_nil_iff_forall_not_mem]
  exact forall_congr' fun kept => not_congr mem_captures

/-- Where all matches at the front agree on the group, the engine finds that group. -/
theorem atFront_of_matches {text kept : List α} (isMatch : expression.Matches text kept)
    (only : ∀ other, expression.Matches text other → other = kept)
    : expression.atFront text = some kept := by
  cases found : expression.atFront text with
  | none => exact absurd isMatch (atFront_eq_none_iff.mp found kept)
  | some other => rw [only other (matches_of_atFront found)]

/-- A match anywhere in a text is found, or one before it. -/
theorem exec_ne_none {before text kept : List α} (isMatch : expression.Matches text kept)
    : expression.exec (before ++ text) ≠ none := by
  have here : expression.atFront text ≠ none := fun nothing =>
    atFront_eq_none_iff.mp nothing kept isMatch
  induction before with
  | nil =>
      cases text with
      | nil => exact here
      | cons item rest =>
          rw [List.nil_append, exec, Ne, Option.or_eq_none_iff]
          exact fun nothing => here nothing.1
  | cons item before ih =>
      rw [List.cons_append, exec, Ne, Option.or_eq_none_iff]
      exact fun nothing => ih nothing.2

end Capture

end ControlPlane.Library
