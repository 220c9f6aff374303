import ControlPlane.Library.Dialogues
import ControlPlane.Library.Runs

/-! Pools of programs over one state. Each program was started for a request, they run side by side a
question at a time, and each may fail where it stands. What all runs of a pool keep follows from what
one program keeps between two of its questions.
-/

namespace ControlPlane.Library

universe u v

-----------------------------------------------------------------------------------------
-- Histories
-----------------------------------------------------------------------------------------

/-- Of each event in a history (P before event) held when it happened. -/
def InOrder {ε : Type*} (P : List ε → ε → Prop) (history : List ε) : Prop :=
  ∀ before event, before ++ [event] <+: history → P before event

theorem inOrder_nil {ε : Type*} {P : List ε → ε → Prop} : InOrder P [] := by
  intro before event isPrefix
  simp at isPrefix

theorem InOrder.append {ε : Type*} {P : List ε → ε → Prop} {history : List ε} {event : ε}
    (ordered : InOrder P history) (here : P history event)
    : InOrder P (history ++ [event]) := by
  intro before other isPrefix
  rcases List.prefix_concat_iff.mp isPrefix with whole | earlier
  · obtain ⟨rfl, same⟩ := List.append_inj' whole rfl
    cases same
    exact here
  · exact ordered before other earlier

/-- What is in a history was in order when it happened. -/
theorem InOrder.of_mem {ε : Type*} {P : List ε → ε → Prop} {history : List ε} {event : ε}
    (ordered : InOrder P history) (happened : event ∈ history)
    : ∃ before, before ++ [event] <+: history ∧ P before event := by
  obtain ⟨before, rest, rfl⟩ := List.append_of_mem happened
  have upTo : before ++ [event] <+: before ++ event :: rest := ⟨rest, by simp⟩
  exact ⟨before, upTo, ordered before event upTo⟩

-----------------------------------------------------------------------------------------
-- Pools
-----------------------------------------------------------------------------------------

/-- A request, and its place among all that came. -/
structure Party (π : Type*) where
  place : Nat
  request : π

/-- How a request becomes a program, how questions are answered to a party, what is left of a program
that fails, and how else the state changes.
-/
structure PoolRules (κ : Type v) (answer : κ → Type u) (ρ : Type u) (π σ ω ε : Type*) where
  program : π → Dialogue κ answer ρ
  serve : Party π → σ → (question : κ) → ω → σ × answer question
  failed : ρ
  change : σ → ε → Option σ

/-- A request, and what is left of its program. -/
structure Started (κ : Type v) (answer : κ → Type u) (ρ : Type u) (π : Type*) where
  request : π
  program : Dialogue κ answer ρ

structure Pool (κ : Type v) (answer : κ → Type u) (ρ : Type u) (π σ : Type*) where
  state : σ
  started : List (Started κ answer ρ π)

/-- A request comes in, a program puts its next question or fails, or something else happens. -/
inductive PoolAction (π ω ε : Type*)
  | start (request : π)
  | ask (place : Nat) (input : ω)
  | fail (place : Nat)
  | other (change : ε)

variable {κ : Type v} {answer : κ → Type u} {ρ : Type u} {π σ ω ε : Type*}

namespace Pool

def begin (state : σ) : Pool κ answer ρ π σ where
  state := state
  started := []

def step (rules : PoolRules κ answer ρ π σ ω ε) (pool : Pool κ answer ρ π σ)
    : PoolAction π ω ε → Option (Pool κ answer ρ π σ)
  | .start request =>
      some { pool with started := pool.started ++ [{ request, program := rules.program request }] }
  | .ask place input =>
      pool.started[place]?.bind fun one =>
        let party : Party π := { place, request := one.request }
        (one.program.next (rules.serve party) pool.state input).map fun served =>
          { state := served.1
            started := pool.started.set place { one with program := served.2 } }
  | .fail place =>
      pool.started[place]?.map fun one =>
        { pool with
          started := pool.started.set place { one with program := .returns rules.failed } }
  | .other change => (rules.change pool.state change).map fun state => { pool with state }

end Pool

/-- What the programs of a pool keep to: an invariant of the state, and a way in which the state moves.
Each program keeps the two at each of its questions, as long as the others did so before it.
-/
structure Discipline (rules : PoolRules κ answer ρ π σ ω ε) where
  Kept : σ → Prop
  Moves : σ → σ → Prop
  refl : ∀ state, Moves state state
  trans : ∀ {first second third}, Moves first second → Moves second third → Moves first third
  keeps
    : ∀ party state,
        (rules.program party.request).Keeps (rules.serve party) Dialogue.Anything
          (fun before after => Moves before after ∧ Kept after)
          (fun before after => Moves before after ∧ Kept after) state
  other
    : ∀ {state change after}, Kept state → rules.change state change = some after →
        Moves state after ∧ Kept after

namespace Discipline

variable {rules : PoolRules κ answer ρ π σ ω ε} (discipline : Discipline rules)

/-- What the others do between two questions, and what one question does. -/
def Goes (before after : σ) : Prop :=
  discipline.Moves before after ∧ discipline.Kept after

/-- What is left of the program of a party keeps to the discipline. -/
def Stands (party : Party π) (state : σ) (program : Dialogue κ answer ρ) : Prop :=
  program.Keeps (rules.serve party) Dialogue.Anything discipline.Goes discipline.Goes state

/-- The state is kept, and every program keeps to the discipline. -/
structure Holds (pool : Pool κ answer ρ π σ) : Prop where
  kept : discipline.Kept pool.state
  stands : ∀ (place : Nat) one, pool.started[place]? = some one →
    discipline.Stands { place, request := one.request } pool.state one.program

variable {discipline}

theorem Goes.trans {first second third : σ} (early : discipline.Goes first second)
    (late : discipline.Goes second third)
    : discipline.Goes first third :=
  ⟨discipline.trans early.1 late.1, late.2⟩

theorem Stands.later {party : Party π} {state after : σ} {program : Dialogue κ answer ρ}
    (stands : discipline.Stands party state program) (goes : discipline.Goes state after)
    : discipline.Stands party after program :=
  Dialogue.Keeps.later Goes.trans stands goes

/-- By the definition of Keeps, where nobody moved since. -/
theorem Stands.next {party : Party π} {state after : σ} {input : ω}
    {program rest : Dialogue κ answer ρ} (kept : discipline.Kept state)
    (stands : discipline.Stands party state program)
    (taken : program.next (rules.serve party) state input = some (after, rest))
    : discipline.Goes state after ∧ discipline.Stands party after rest := by
  cases program with
  | returns result => cases taken
  | asks question onward =>
      cases taken
      exact stands state input ⟨discipline.refl state, kept⟩ trivial

theorem holds_begin {state : σ} (kept : discipline.Kept state)
    : discipline.Holds (.begin state) where
  kept := kept
  stands place one isOne := by simp [Pool.begin] at isOne

/-- One program of a pool is put forward, and the others stand where they stood. -/
theorem Holds.set {pool : Pool κ answer ρ π σ} (holds : discipline.Holds pool) {place : Nat}
    {one : Started κ answer ρ π} {after : σ} {rest : Dialogue κ answer ρ}
    (isOne : pool.started[place]? = some one) (goes : discipline.Goes pool.state after)
    (stands : discipline.Stands { place, request := one.request } after rest)
    : discipline.Holds
        { state := after, started := pool.started.set place { one with program := rest } } where
  kept := goes.2
  stands other another isAnother := by
    rcases eq_or_ne place other with rfl | apart
    · have within := (List.getElem?_eq_some_iff.mp isOne).choose
      rw [List.getElem?_set_self within] at isAnother
      cases isAnother
      exact stands
    · rw [List.getElem?_set_ne apart] at isAnother
      exact (holds.stands other another isAnother).later goes

/-- The step rule, by the action. -/
theorem Holds.step {pool next : Pool κ answer ρ π σ} {action : PoolAction π ω ε}
    (holds : discipline.Holds pool) (taken : pool.step rules action = some next)
    : discipline.Holds next := by
  cases action with
  | start request =>
      cases taken
      refine ⟨holds.kept, fun place one isOne => ?_⟩
      rw [List.getElem?_append] at isOne
      split at isOne
      next => exact holds.stands place one isOne
      next =>
        cases List.mem_singleton.mp (List.mem_of_getElem? isOne)
        exact discipline.keeps _ _
  | ask place input =>
      obtain ⟨one, isOne, went⟩ := Option.bind_eq_some_iff.mp taken
      obtain ⟨served, isServed, rfl⟩ := Option.map_eq_some_iff.mp went
      obtain ⟨goes, stands⟩ := (holds.stands place one isOne).next holds.kept isServed
      exact holds.set isOne goes stands
  | fail place =>
      obtain ⟨one, isOne, rfl⟩ := Option.map_eq_some_iff.mp taken
      exact holds.set isOne ⟨discipline.refl _, holds.kept⟩ trivial
  | other change =>
      obtain ⟨after, isAfter, rfl⟩ := Option.map_eq_some_iff.mp taken
      have goes := discipline.other holds.kept isAfter
      exact ⟨goes.2, fun place one isOne => (holds.stands place one isOne).later goes⟩

/-- The run rule: however the programs of a pool are interleaved, what each of them keeps is kept. -/
theorem kept_of_run {state : σ} {actions : List (PoolAction π ω ε)} {pool : Pool κ answer ρ π σ}
    (kept : discipline.Kept state)
    (reached : exec (Pool.step rules) (.begin state) actions = some pool)
    : discipline.Kept pool.state := by
  have steps : ∀ before action after, discipline.Holds before →
      Pool.step rules before action = some after → discipline.Holds after :=
    fun _ _ _ holds taken => holds.step taken
  exact (exec_preserves steps (holds_begin kept) reached).kept

end Discipline

end ControlPlane.Library
