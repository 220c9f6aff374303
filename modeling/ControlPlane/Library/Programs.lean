import Mathlib.Data.List.Basic

/-! Straight-line programs: lists of calls, made one after another, each of which may take a state
to several others. What such a program needs on its way is told from its first call on, so that
the parts of a program are reasoned about one at a time.
-/

namespace ControlPlane.Library

variable {σ : Type*} {α : Type*}

/-- (Carries next may Q program state) requires, of each way to run the program from a state, that
each call may be made where it is reached, and that Q holds where the program ends.
-/
def Carries (next : σ → α → σ → Prop) (may : σ → α → Prop) (Q : σ → Prop)
    : List α → σ → Prop
  | [], state => Q state
  | call :: rest, state =>
      may state call ∧ ∀ after, next state call after → Carries next may Q rest after

variable {next : σ → α → σ → Prop} {may : σ → α → Prop} {Q R : σ → Prop} {state : σ}

@[simp] theorem carries_nil : Carries next may Q [] state ↔ Q state := Iff.rfl

theorem carries_cons {call : α} {rest : List α}
    : Carries next may Q (call :: rest) state
      ↔ may state call ∧ ∀ after, next state call after → Carries next may Q rest after :=
  Iff.rfl

/-- A program followed by another carries what the first one carries up to where the second one
starts, by induction on the first.
-/
theorem carries_append {first second : List α}
    : Carries next may Q (first ++ second) state
      ↔ Carries next may (Carries next may Q second) first state := by
  induction first generalizing state with
  | nil => rfl
  | cons call rest ih => simp only [List.cons_append, carries_cons, ih]

/-- A weaker end is carried too, by induction on the program. -/
theorem Carries.mono {program : List α} (weaker : ∀ state, Q state → R state)
    (carries : Carries next may Q program state)
    : Carries next may R program state := by
  induction program generalizing state with
  | nil => exact weaker state carries
  | cons call rest ih => exact ⟨carries.1, fun after step => ih (carries.2 after step)⟩

/-- The rule for sequences: the second part is carried from wherever the first one may end. -/
theorem Carries.append {first second : List α} (onFirst : Carries next may R first state)
    (onSecond : ∀ middle, R middle → Carries next may Q second middle)
    : Carries next may Q (first ++ second) state :=
  carries_append.mpr (onFirst.mono onSecond)

/-- A call that may be made, and after which the rest is carried. -/
theorem Carries.cons {call : α} {rest : List α} (allowed : may state call)
    (onward : ∀ after, next state call after → Carries next may Q rest after)
    : Carries next may Q (call :: rest) state :=
  ⟨allowed, onward⟩

end ControlPlane.Library
