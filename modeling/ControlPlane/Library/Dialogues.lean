import Mathlib.Data.List.Basic

/-! Programs that put one question after another and go on with the answers. Several of them may
run side by side over one state, a question at a time; what one of them does is told by a relation
that it guarantees, under a relation that the others keep to between its questions.
-/

namespace ControlPlane.Library

universe u v

/-- A program, which ends with a result. Each question is answered in a type of its own. -/
inductive Dialogue (κ : Type v) (answer : κ → Type u) (ρ : Type u)
  | returns (result : ρ)
  | asks (question : κ) (onward : answer question → Dialogue κ answer ρ)

namespace Dialogue

variable {κ : Type v} {answer : κ → Type u} {ρ τ : Type u} {σ ω : Type*}

def ask (question : κ) : Dialogue κ answer (answer question) :=
  .asks question .returns

/-- The questions of one program, and then those of the next. -/
def andThen : Dialogue κ answer ρ → (ρ → Dialogue κ answer τ) → Dialogue κ answer τ
  | .returns result, rest => rest result
  | .asks question onward, rest => .asks question fun given => (onward given).andThen rest

instance : Monad (Dialogue κ answer) where
  pure := .returns
  bind := .andThen

@[simp] theorem pure_eq (result : ρ) : (pure result : Dialogue κ answer ρ) = .returns result := rfl

@[simp] theorem ask_bind (question : κ) (rest : answer question → Dialogue κ answer τ)
    : ask question >>= rest = .asks question rest := rfl

/-- A program put forward by its next question. The outside contributes an input to the answer. -/
def next (serve : σ → (question : κ) → ω → σ × answer question) (state : σ) (input : ω)
    : Dialogue κ answer ρ → Option (σ × Dialogue κ answer ρ)
  | .returns _ => none
  | .asks question onward =>
      some ((serve state question input).1, onward (serve state question input).2)

/-- The next question may be put in this state. -/
def May (allowed : σ → κ → Prop) (state : σ) : Dialogue κ answer ρ → Prop
  | .returns _ => True
  | .asks question _ => allowed state question

instance {allowed : σ → κ → Prop} [∀ state question, Decidable (allowed state question)] (state : σ)
    : ∀ program : Dialogue κ answer ρ, Decidable (program.May allowed state)
  | .returns _ => inferInstanceAs (Decidable True)
  | .asks question _ => inferInstanceAs (Decidable (allowed state question))

/-- Any question may be put in any state. -/
def Anything (_ : σ) (_ : κ) : Prop := True

/-- (Keeps serve allowed rely guarantee program state): however the others move the state within
rely before each question, a question that is allowed moves it within guarantee.
-/
def Keeps (serve : σ → (question : κ) → ω → σ × answer question) (allowed : σ → κ → Prop)
    (rely guarantee : σ → σ → Prop)
    : Dialogue κ answer ρ → σ → Prop
  | .returns _, _ => True
  | .asks question onward, state =>
      ∀ middle input, rely state middle → allowed middle question
        → guarantee middle (serve middle question input).1
          ∧ Keeps serve allowed rely guarantee (onward (serve middle question input).2)
              (serve middle question input).1

variable {serve : σ → (question : κ) → ω → σ × answer question} {allowed : σ → κ → Prop}
  {rely guarantee : σ → σ → Prop} {program rest : Dialogue κ answer ρ} {state shifted after : σ}

/-- What the others do before the next question does not matter. -/
theorem Keeps.later
    (transitive : ∀ {first second third}, rely first second → rely second third → rely first third)
    (keeps : program.Keeps serve allowed rely guarantee state) (moved : rely state shifted)
    : program.Keeps serve allowed rely guarantee shifted := by
  cases program with
  | returns result => trivial
  | asks question onward =>
      exact fun middle input further => keeps middle input (transitive moved further)

theorem may_anything (program : Dialogue κ answer ρ) (state : σ)
    : program.May Anything state := by
  cases program with
  | returns result => trivial
  | asks question onward => trivial

/-- The step rule: a program put forward moves the state within its guarantee, and the rest of it
keeps to the same.
-/
theorem Keeps.next (reflexive : ∀ state, rely state state)
    (keeps : program.Keeps serve allowed rely guarantee state)
    (may : program.May allowed state) {input : ω}
    (taken : program.next serve state input = some (after, rest))
    : guarantee state after ∧ rest.Keeps serve allowed rely guarantee after := by
  cases program with
  | returns result => exact nomatch taken
  | asks question onward =>
      cases taken
      exact keeps state input (reflexive state) may

/-- (Leads serve allowed rely guarantee post program state): as Keeps, and where the program ends it
has established something of its result.
-/
def Leads (serve : σ → (question : κ) → ω → σ × answer question) (allowed : σ → κ → Prop)
    (rely guarantee : σ → σ → Prop) (post : σ → ρ → Prop)
    : Dialogue κ answer ρ → σ → Prop
  | .returns result, state => post state result
  | .asks question onward, state =>
      ∀ middle input, rely state middle → allowed middle question
        → guarantee middle (serve middle question input).1
          ∧ Leads serve allowed rely guarantee post (onward (serve middle question input).2)
              (serve middle question input).1

/-- What a program has established the next one may start from, by induction on the first. -/
theorem Leads.andThen {post : σ → ρ → Prop} {first : Dialogue κ answer ρ}
    {second : ρ → Dialogue κ answer τ} (leads : first.Leads serve allowed rely guarantee post state)
    (keeps
      : ∀ state result, post state result →
          (second result).Keeps serve allowed rely guarantee state)
    : (first.andThen second).Keeps serve allowed rely guarantee state := by
  induction first generalizing state with
  | returns result => exact keeps state result leads
  | asks question onward ih =>
      intro middle input moved may
      obtain ⟨kept, onwards⟩ := leads middle input moved may
      exact ⟨kept, ih _ onwards⟩

/-- What one program has established the next one may start from, to establish more. By induction on the
first.
-/
theorem Leads.bind {post : σ → ρ → Prop} {further : σ → τ → Prop} {first : Dialogue κ answer ρ}
    {second : ρ → Dialogue κ answer τ} (leads : first.Leads serve allowed rely guarantee post state)
    (leadsOn
      : ∀ state result, post state result →
          (second result).Leads serve allowed rely guarantee further state)
    : (first.andThen second).Leads serve allowed rely guarantee further state := by
  induction first generalizing state with
  | returns result => exact leadsOn state result leads
  | asks question onward ih =>
      intro middle input moved may
      obtain ⟨kept, onwards⟩ := leads middle input moved may
      exact ⟨kept, ih _ onwards⟩

/-- The programs of a pool keep to their guarantees when one of them is put forward. -/
theorem keeps_set {pool : List (Dialogue κ answer ρ)} {place : Nat}
    (transitive : ∀ {first second third}, rely first second → rely second third → rely first third)
    (all : ∀ program ∈ pool, program.Keeps serve allowed rely guarantee state)
    (moved : rely state after) (kept : rest.Keeps serve allowed rely guarantee after)
    : ∀ program ∈ pool.set place rest, program.Keeps serve allowed rely guarantee after := by
  intro program member
  rcases List.mem_or_eq_of_mem_set member with other | same
  · exact (all program other).later transitive moved
  · exact same ▸ kept

-----------------------------------------------------------------------------------------
-- The questions of a program
-----------------------------------------------------------------------------------------

/-- A program with each of its questions put by way of another program. -/
def through {κ' : Type v} {answer' : κ' → Type u}
    (way : (question : κ) → Dialogue κ' answer' (answer question))
    : Dialogue κ answer ρ → Dialogue κ' answer' ρ
  | .returns result => .returns result
  | .asks question onward => (way question).andThen fun given => (onward given).through way

/-- All questions that a program may come to put are among these, whatever it is answered. -/
def Asks (among : κ → Prop) : Dialogue κ answer ρ → Prop
  | .returns _ => True
  | .asks question onward => among question ∧ ∀ given, (onward given).Asks among

variable {among : κ → Prop}

theorem asks_ask {question : κ} (isAmong : among question)
    : (ask question : Dialogue κ answer (answer question)).Asks among :=
  ⟨isAmong, fun _ => trivial⟩

/-- By induction on the first program. -/
theorem Asks.andThen {program : Dialogue κ answer ρ} {further : ρ → Dialogue κ answer τ}
    (first : program.Asks among) (second : ∀ result, (further result).Asks among)
    : (program.andThen further).Asks among := by
  induction program with
  | returns result => exact second result
  | asks question onward ih => exact ⟨first.1, fun given => ih given (first.2 given)⟩

/-- By induction on the program. -/
theorem asks_through {κ' : Type v} {answer' : κ' → Type u} {among : κ' → Prop}
    {way : (question : κ) → Dialogue κ' answer' (answer question)}
    (each : ∀ question, (way question).Asks among) (program : Dialogue κ answer ρ)
    : (program.through way).Asks among := by
  induction program with
  | returns result => trivial
  | asks question onward ih => exact (each question).andThen ih

/-- A program put forward has put one of its questions, and goes on with no others. -/
theorem Asks.next {program rest : Dialogue κ answer ρ} (asks : program.Asks among) {input : ω}
    (taken : program.next serve state input = some (after, rest))
    : ∃ question, among question ∧ after = (serve state question input).1 ∧ rest.Asks among := by
  cases program with
  | returns result => cases taken
  | asks question onward =>
      cases taken
      exact ⟨question, asks.1, rfl, asks.2 _⟩

end Dialogue

end ControlPlane.Library
