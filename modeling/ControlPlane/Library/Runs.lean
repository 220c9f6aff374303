import Mathlib.Data.List.Induction
import Mathlib.Logic.Function.Basic

/-! Finite runs of a partial step function, and the rules that lift facts about one step
to every state of a run. An action that is not enabled has no successor state.
-/

namespace ControlPlane.Library

variable {σ : Type*} {α : Type*}

/-- (exec step state actions) performs the actions in order; it has no result when one of
them is not enabled where it is reached.
-/
def exec (step : σ → α → Option σ) : σ → List α → Option σ
  | state, [] => some state
  | state, action :: rest => (step state action).bind fun next => exec step next rest

/-- (Throughout step P state actions) requires P of each enabled action of the run and of
the state it is taken in.
-/
def Throughout (step : σ → α → Option σ) (P : σ → α → Prop) : σ → List α → Prop
  | _, [] => True
  | state, action :: rest =>
      ∀ next, step state action = some next → P state action ∧ Throughout step P next rest

/-- (Everywhere step Q state actions) requires Q of every state the run visits, the first
and the last one included.
-/
def Everywhere (step : σ → α → Option σ) (Q : σ → Prop) : σ → List α → Prop
  | state, [] => Q state
  | state, action :: rest =>
      Q state ∧ ∀ next, step state action = some next → Everywhere step Q next rest

/-- What holds of the empty run and is kept by each next action holds of the whole run, by
induction on its last action.
-/
theorem prefix_induction {P : List α → Prop} {run : List α} (nothing : P [])
    (keeps : ∀ sofar action rest, run = sofar ++ action :: rest → P sofar → P (sofar ++ [action]))
    : P run := by
  have upTo : ∀ sofar rest, run = sofar ++ rest → P sofar := by
    intro sofar
    induction sofar using List.reverseRecOn with
    | nil => exact fun _ _ => nothing
    | append_singleton init last ih =>
        intro rest cut
        have cut' : run = init ++ last :: rest := by simpa using cut
        exact keeps init last rest cut' (ih (last :: rest) cut')
  exact upTo run [] (by simp)

/-- A nonempty run starts with one enabled action, by the defining bind. -/
theorem exec_cons {step : σ → α → Option σ} {state final : σ} {action : α}
    {rest : List α}
    : exec step state (action :: rest) = some final
      ↔ ∃ next, step state action = some next ∧ exec step next rest = some final := by
  simp only [exec, Option.bind_eq_some_iff]

/-- Runs compose, by induction on the first part. -/
theorem exec_append {step : σ → α → Option σ} {state final : σ} {first second : List α}
    : exec step state (first ++ second) = some final
      ↔ ∃ middle, exec step state first = some middle
          ∧ exec step middle second = some final := by
  induction first generalizing state with
  | nil => simp [exec]
  | cons action rest ih =>
      simp only [List.cons_append, exec_cons, ih]
      constructor
      · intro h
        obtain ⟨next, taken, middle, reached, onward⟩ := h
        exact ⟨middle, ⟨next, taken, reached⟩, onward⟩
      · intro h
        obtain ⟨middle, ⟨next, taken, reached⟩, onward⟩ := h
        exact ⟨next, taken, middle, reached, onward⟩

/-- A property that every allowed step keeps holds at the end of an allowed run, by
induction on the actions.
-/
theorem exec_invariant {step : σ → α → Option σ} {Inv : σ → Prop} {C : σ → α → Prop}
    (keeps
      : ∀ state action next,
          Inv state → C state action → step state action = some next → Inv next)
    {state final : σ} {actions : List α} (start : Inv state)
    (allowed : Throughout step C state actions)
    (reached : exec step state actions = some final)
    : Inv final := by
  induction actions generalizing state with
  | nil =>
      cases reached
      exact start
  | cons action rest ih =>
      obtain ⟨next, taken, onward⟩ := exec_cons.mp reached
      obtain ⟨permitted, later⟩ := allowed next taken
      exact ih (keeps state action next start permitted taken) later onward

/-- An unconditional step invariant holds at the end of every run. -/
theorem exec_preserves {step : σ → α → Option σ} {Inv : σ → Prop}
    (keeps : ∀ state action next, Inv state → step state action = some next → Inv next)
    {state final : σ} {actions : List α} (start : Inv state)
    (reached : exec step state actions = some final)
    : Inv final := by
  induction actions generalizing state with
  | nil =>
      cases reached
      exact start
  | cons action rest ih =>
      obtain ⟨next, taken, onward⟩ := exec_cons.mp reached
      exact ih (keeps state action next start taken) onward

/-- (emitted step emit state actions) lists what the actions of a run emit, in order. -/
def emitted {β : Type*} (step : σ → α → Option σ) (emit : σ → α → List β) : σ → List α → List β
  | _, [] => []
  | state, action :: rest =>
      emit state action
      ++ (step state action).elim [] fun next => emitted step emit next rest

/-- A view that every step folds what it emits into has all of a run folded in at its end, by
induction on the actions.
-/
theorem exec_folds {β γ : Type*} {step : σ → α → Option σ} {emit : σ → α → List β}
    {add : γ → β → γ} (view : σ → γ)
    (folds
      : ∀ state action next, step state action = some next
        → view next = (emit state action).foldl add (view state))
    {state final : σ} {actions : List α} (reached : exec step state actions = some final)
    : view final = (emitted step emit state actions).foldl add (view state) := by
  induction actions generalizing state with
  | nil =>
      cases reached
      rfl
  | cons action rest ih =>
      obtain ⟨next, taken, onward⟩ := exec_cons.mp reached
      rw [emitted, taken, Option.elim_some, List.foldl_append, ← folds state action next taken]
      exact ih onward

/-- A condition that holds of every enabled step holds throughout every run. -/
theorem throughout_of_forall {step : σ → α → Option σ} {P : σ → α → Prop}
    (always : ∀ state action next, step state action = some next → P state action)
    (state : σ) (actions : List α)
    : Throughout step P state actions := by
  induction actions generalizing state with
  | nil => trivial
  | cons action rest ih =>
      intro next taken
      exact ⟨always state action next taken, ih next⟩

/-- What holds throughout a run that starts with an enabled action holds of that action, and
throughout the rest.
-/
theorem throughout_cons {step : σ → α → Option σ} {P : σ → α → Prop} {state next : σ}
    {action : α} {rest : List α} (taken : step state action = some next)
    : Throughout step P state (action :: rest) ↔ P state action ∧ Throughout step P next rest := by
  constructor
  · exact fun throughout => throughout next taken
  · intro held other alsoTaken
    cases alsoTaken.symm.trans taken
    exact held

/-- A run is checked one step after another. -/
instance decidableThroughout {step : σ → α → Option σ} {P : σ → α → Prop}
    [∀ state action, Decidable (P state action)]
    : ∀ state actions, Decidable (Throughout step P state actions)
  | _, [] => .isTrue trivial
  | state, action :: rest =>
      match taken : step state action with
      | none => 
          .isTrue fun _ some => absurd (some.symm.trans taken) (Option.some_ne_none _)
      | some next =>
          have : Decidable (Throughout step P next rest) := decidableThroughout next rest
          decidable_of_iff _ (throughout_cons taken).symm

/-- What holds throughout a run holds throughout its first part, and throughout the second part
from where the first one ends, by induction on the first part.
-/
theorem throughout_append {step : σ → α → Option σ} {P : σ → α → Prop} {state middle : σ}
    {first second : List α} (throughout : Throughout step P state (first ++ second))
    (reached : exec step state first = some middle)
    : Throughout step P state first ∧ Throughout step P middle second := by
  induction first generalizing state with
  | nil =>
      cases reached
      exact ⟨trivial, throughout⟩
  | cons action rest ih =>
      obtain ⟨next, taken, onward⟩ := exec_cons.mp reached
      obtain ⟨held, later⟩ := (throughout_cons taken).mp throughout
      have onNext := ih later onward
      exact ⟨(throughout_cons taken).mpr ⟨held, onNext.1⟩, onNext.2⟩

/-- What holds throughout the first part of a run, and throughout the second from wherever the first
one ends, holds throughout the run, by induction on the first part.
-/
theorem Throughout.append {step : σ → α → Option σ} {P : σ → α → Prop} {state : σ}
    {first second : List α} (before : Throughout step P state first)
    (onward : ∀ middle, exec step state first = some middle → Throughout step P middle second)
    : Throughout step P state (first ++ second) := by
  induction first generalizing state with
  | nil => exact onward state rfl
  | cons action rest ih =>
      intro next taken
      obtain ⟨held, later⟩ := before next taken
      refine ⟨held, ih later fun middle reached => onward middle ?_⟩
      exact exec_cons.mpr ⟨next, taken, reached⟩

/-- Two conditions that agree on every step from a state that the steps keep good hold throughout
the same runs, by induction on the actions.
-/
theorem throughout_congr {step : σ → α → Option σ} {Inv : σ → Prop} {P Q : σ → α → Prop}
    (keeps : ∀ state action next, Inv state → step state action = some next → Inv next)
    (agree
      : ∀ state action next, Inv state → step state action = some next
        → (P state action ↔ Q state action))
    {state : σ} {actions : List α} (start : Inv state)
    : Throughout step P state actions ↔ Throughout step Q state actions := by
  induction actions generalizing state with
  | nil => exact Iff.rfl
  | cons action rest ih =>
      refine forall_congr' fun next => forall_congr' fun taken => ?_
      exact and_congr (agree state action next start taken)
        (ih (keeps state action next start taken))

/-- A condition that the actions of a run meet in every state holds throughout it. -/
theorem throughout_of_mem {step : σ → α → Option σ} {P : σ → α → Prop} {actions : List α}
    (always : ∀ action ∈ actions, ∀ state, P state action) (state : σ)
    : Throughout step P state actions := by
  induction actions generalizing state with
  | nil => trivial
  | cons action rest ih =>
      intro next taken
      refine ⟨always action List.mem_cons_self state, ih (fun other member => ?_) next⟩
      exact always other (List.mem_cons_of_mem _ member)

/-- What allowed steps keep, and what they then do, holds throughout an allowed run, by induction on
the actions.
-/
theorem throughout_of_throughout {step : σ → α → Option σ} {Inv : σ → Prop} {C P : σ → α → Prop}
    (keeps
      : ∀ state action next,
          Inv state → C state action → step state action = some next → Inv next)
    (does
      : ∀ state action next,
          Inv state → C state action → step state action = some next → P state action)
    {state : σ} {actions : List α} (start : Inv state)
    (allowed : Throughout step C state actions)
    : Throughout step P state actions := by
  induction actions generalizing state with
  | nil => trivial
  | cons action rest ih =>
      intro next taken
      obtain ⟨permitted, later⟩ := allowed next taken
      exact ⟨does state action next start permitted taken,
        ih (keeps state action next start permitted taken) later⟩

/-- Two conditions that hold throughout a run hold together throughout it. -/
theorem Throughout.and {step : σ → α → Option σ} {P Q : σ → α → Prop} {state : σ}
    {actions : List α} (first : Throughout step P state actions)
    (second : Throughout step Q state actions)
    : Throughout step (fun state action => P state action ∧ Q state action) state actions := by
  induction actions generalizing state with
  | nil => trivial
  | cons action rest ih =>
      intro next taken
      obtain ⟨held, onward⟩ := first next taken
      obtain ⟨alsoHeld, alsoOnward⟩ := second next taken
      exact ⟨⟨held, alsoHeld⟩, ih onward alsoOnward⟩

/-- What every allowed step keeps holds in every state of an allowed run, by induction on the
actions.
-/
theorem everywhere_of_throughout {step : σ → α → Option σ} {Inv Q : σ → Prop} {C : σ → α → Prop}
    (keeps
      : ∀ state action next,
          Inv state → C state action → step state action = some next → Inv next)
    (good : ∀ state, Inv state → Q state) {state : σ} {actions : List α} (start : Inv state)
    (allowed : Throughout step C state actions)
    : Everywhere step Q state actions := by
  induction actions generalizing state with
  | nil => exact good state start
  | cons action rest ih =>
      refine ⟨good state start, fun next taken => ?_⟩
      obtain ⟨permitted, later⟩ := allowed next taken
      exact ih (keeps state action next start permitted taken) later

/-- When a step from a good state is good exactly under a condition, all states of an allowed
run are good exactly when all its steps meet the condition. Witness: induction on the
actions, carrying an invariant that no allowed step can break.
-/
theorem everywhere_iff_throughout {step : σ → α → Option σ} {Inv Q : σ → Prop}
    {A C : σ → α → Prop}
    (keeps
      : ∀ state action next,
          Inv state → A state action → step state action = some next → Inv next)
    (exact_step
      : ∀ state action next,
          Inv state → A state action → Q state → step state action = some next
          → (Q next ↔ C state action))
    {state : σ} {actions : List α} (start : Inv state) (good : Q state)
    (allowed : Throughout step A state actions)
    : Everywhere step Q state actions ↔ Throughout step C state actions := by
  induction actions generalizing state with
  | nil => exact ⟨fun _ => trivial, fun _ => good⟩
  | cons action rest ih =>
      constructor
      · intro everywhere next taken
        obtain ⟨permitted, onward⟩ := allowed next taken
        have later := everywhere.2 next taken
        have goodNext : Q next := by
          cases rest with
          | nil => exact later
          | cons _ _ => exact later.1
        have startNext := keeps state action next start permitted taken
        exact ⟨(exact_step state action next start permitted good taken).mp goodNext,
          (ih startNext goodNext onward).mp later⟩
      · intro throughout
        refine ⟨good, fun next taken => ?_⟩
        obtain ⟨permitted, onward⟩ := allowed next taken
        obtain ⟨met, later⟩ := throughout next taken
        have goodNext := (exact_step state action next start permitted good taken).mpr met
        have startNext := keeps state action next start permitted taken
        exact (ih startNext goodNext onward).mpr later

/-- The states a run visits are those its prefixes reach, by induction on the actions. -/
theorem everywhere_iff_prefixes {step : σ → α → Option σ} {Q : σ → Prop} {state : σ}
    {actions : List α}
    : Everywhere step Q state actions
      ↔ ∀ first rest reached, actions = first ++ rest → exec step state first = some reached
          → Q reached := by
  induction actions generalizing state with
  | nil =>
      constructor
      · intro good first rest reached cut arrived
        obtain ⟨none, _⟩ := List.append_eq_nil_iff.mp cut.symm
        subst none
        cases arrived
        exact good
      · intro good
        exact good [] [] state rfl rfl
  | cons action tail ih =>
      constructor
      · intro everywhere first rest reached cut arrived
        cases first with
        | nil =>
            cases arrived
            exact everywhere.1
        | cons head before =>
            obtain ⟨same, cut'⟩ := List.cons.inj cut
            subst same
            obtain ⟨next, taken, onward⟩ := exec_cons.mp arrived
            exact ih.mp (everywhere.2 next taken) before rest reached cut' onward
      · intro good
        refine ⟨good [] (action :: tail) state rfl rfl, fun next taken => ih.mpr ?_⟩
        intro first rest reached cut arrived
        refine good (action :: first) rest reached (by rw [cut, List.cons_append]) ?_
        exact exec_cons.mpr ⟨next, taken, arrived⟩

/-- A run meets a condition throughout, or it ends in a trap: a step that fails the condition falls
into the trap, and no step leaves it. Witness: induction on the actions.
-/
theorem throughout_or_trapped {step : σ → α → Option σ} {Inv Trap : σ → Prop} {C : σ → α → Prop}
    (keeps
      : ∀ state action next,
          Inv state → C state action → step state action = some next → Inv next)
    (falls
      : ∀ state action next,
          Inv state → ¬C state action → step state action = some next → Trap next)
    (stays : ∀ state action next, Trap state → step state action = some next → Trap next)
    {state final : σ} {actions : List α} (start : Inv state)
    (reached : exec step state actions = some final)
    : Throughout step C state actions ∨ Trap final := by
  induction actions generalizing state with
  | nil => exact .inl trivial
  | cons action rest ih =>
      obtain ⟨next, taken, onward⟩ := exec_cons.mp reached
      by_cases met : C state action
      · rcases ih (keeps state action next start met taken) onward with later | trapped
        · exact .inl ((throughout_cons taken).mpr ⟨met, later⟩)
        · exact .inr trapped
      · exact .inr (exec_preserves stays (falls state action next start met taken) onward)

/-- Where only shown states can be bad, and the trap is bad once it shows, all states of a run are
good exactly when every prefix that ends in a shown state meets the condition throughout.
-/
theorem everywhere_iff_untrapped {step : σ → α → Option σ} {Inv Trap Shown Q : σ → Prop}
    {C : σ → α → Prop}
    (keeps
      : ∀ state action next,
          Inv state → C state action → step state action = some next → Inv next)
    (falls
      : ∀ state action next,
          Inv state → ¬C state action → step state action = some next → Trap next)
    (stays : ∀ state action next, Trap state → step state action = some next → Trap next)
    (good : ∀ state, Inv state → Q state) (hidden : ∀ state, ¬Shown state → Q state)
    (bad : ∀ state, Trap state → Shown state → ¬Q state)
    {state : σ} {actions : List α} (start : Inv state)
    : Everywhere step Q state actions
      ↔ ∀ first rest reached, actions = first ++ rest → exec step state first = some reached
          → Shown reached → Throughout step C state first := by
  rw [everywhere_iff_prefixes]
  constructor
  · intro everywhere first rest reached cut arrived shown
    rcases throughout_or_trapped keeps falls stays start arrived with throughout | trapped
    · exact throughout
    · exact absurd (everywhere first rest reached cut arrived) (bad reached trapped shown)
  · intro throughout first rest reached cut arrived
    by_cases shown : Shown reached
    · have met := throughout first rest reached cut arrived shown
      exact good reached (exec_invariant keeps start met arrived)
    · exact hidden reached shown

/-- Where each action of a list sets a view to one value or leaves it, a run of the list shows that
value as soon as one of its actions sets it, by induction on the actions.
-/
theorem exec_settles {δ : Type*} {step : σ → α → Option σ} {Inv : σ → Prop} {view : σ → δ}
    {sets : α → Prop} [DecidablePred sets] {settled : δ} {actions : List α}
    (keeps
      : ∀ state, ∀ action ∈ actions, ∀ next,
          Inv state → step state action = some next → Inv next)
    (writes
      : ∀ state, ∀ action ∈ actions, ∀ next, Inv state → step state action = some next
        → view next = if sets action then settled else view state)
    {state final : σ} (start : Inv state) (reached : exec step state actions = some final)
    : view final = if ∃ action ∈ actions, sets action then settled else view state := by
  induction actions generalizing state with
  | nil =>
      cases reached
      simp
  | cons action rest ih =>
      obtain ⟨next, taken, onward⟩ := exec_cons.mp reached
      have onNext := keeps state action List.mem_cons_self next start taken
      have written := writes state action List.mem_cons_self next start taken
      rw [ih (fun state other member => keeps state other (List.mem_cons_of_mem _ member))
        (fun state other member => writes state other (List.mem_cons_of_mem _ member)) onNext onward,
        written]
      by_cases here : sets action
      · simp [here]
      · simp [here]

/-- Where it does not depend on the state whether an action is enabled, a list of actions runs to its
end exactly when each of them is, by induction on them.
-/
theorem exec_isSome_iff {step : σ → α → Option σ} {Inv : σ → Prop} {enabled : α → Prop}
    {actions : List α}
    (keeps
      : ∀ state, ∀ action ∈ actions, ∀ next,
          Inv state → step state action = some next → Inv next)
    (runs
      : ∀ state, ∀ action ∈ actions, Inv state
        → ((∃ next, step state action = some next) ↔ enabled action))
    {state : σ} (start : Inv state)
    : (∃ final, exec step state actions = some final) ↔ ∀ action ∈ actions, enabled action := by
  induction actions generalizing state with
  | nil => simp [exec]
  | cons action rest ih =>
      have onRest := fun next (good : Inv next) =>
        ih (fun state other member => keeps state other (List.mem_cons_of_mem _ member))
          (fun state other member => runs state other (List.mem_cons_of_mem _ member)) good
      constructor
      · intro h
        obtain ⟨final, reached⟩ := h
        obtain ⟨next, taken, onward⟩ := exec_cons.mp reached
        have good := keeps state action List.mem_cons_self next start taken
        refine List.forall_mem_cons.mpr ⟨?_, (onRest next good).mp ⟨final, onward⟩⟩
        exact (runs state action List.mem_cons_self start).mp ⟨next, taken⟩
      · intro all
        obtain ⟨here, later⟩ := List.forall_mem_cons.mp all
        obtain ⟨next, taken⟩ := (runs state action List.mem_cons_self start).mpr here
        have good := keeps state action List.mem_cons_self next start taken
        obtain ⟨final, onward⟩ := (onRest next good).mpr later
        exact ⟨final, exec_cons.mpr ⟨next, taken, onward⟩⟩

/-- A property of every visited state holds of the last one. -/
theorem Everywhere.final {step : σ → α → Option σ} {Q : σ → Prop} {state final : σ}
    {actions : List α} (h : Everywhere step Q state actions)
    (reached : exec step state actions = some final)
    : Q final := by
  induction actions generalizing state with
  | nil =>
      cases reached
      exact h
  | cons action rest ih =>
      obtain ⟨next, taken, onward⟩ := exec_cons.mp reached
      exact ih (h.2 next taken) onward

/-- What a worker holds after one entry is replaced is the new entry, or was held before. -/
theorem held_update_cases {ι δ : Type*} [DecidableEq ι] {held : ι → Option δ} {worker other : ι}
    {entry : Option δ} {found : δ} (holds : Function.update held worker entry other = some found)
    : entry = some found ∨ held other = some found := by
  by_cases same : other = worker
  · rw [same, Function.update_self] at holds
    exact .inl holds
  · rw [Function.update_of_ne same] at holds
    exact .inr holds

end ControlPlane.Library
