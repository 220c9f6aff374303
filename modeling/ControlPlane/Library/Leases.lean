import Mathlib.Order.Lattice

/-! A lease is an expiry instant, or nothing. A holder is live strictly before the expiry
and the lease is free strictly after it, so at the expiry instant it is neither.
-/

namespace ControlPlane.Library.Lease

variable {τ : Type*} [LinearOrder τ]

/-- Nobody holds the lease at `now`: it is absent, or it ran out before `now`. -/
def Free (now : τ) : Option τ → Prop
  | none => True
  | some expiry => expiry < now

/-- Somebody holds the lease at `now`. -/
def Live (now : τ) : Option τ → Prop
  | none => False
  | some expiry => now < expiry

/-- The lease has been taken and has not run out, its expiry instant included. -/
def Unexpired (now : τ) : Option τ → Prop
  | none => False
  | some expiry => now ≤ expiry

instance (now : τ) (lease : Option τ) : Decidable (Free now lease) := by
  cases lease <;> unfold Free <;> infer_instance

instance (now : τ) (lease : Option τ) : Decidable (Live now lease) := by
  cases lease <;> unfold Live <;> infer_instance

instance (now : τ) (lease : Option τ) : Decidable (Unexpired now lease) := by
  cases lease <;> unfold Unexpired <;> infer_instance

@[simp] theorem free_none (now : τ) : Free now none := trivial

@[simp] theorem free_some (now expiry : τ) : Free now (some expiry) ↔ expiry < now :=
  Iff.rfl

@[simp] theorem not_live_none (now : τ) : ¬ Live now none := id

@[simp] theorem live_some (now expiry : τ) : Live now (some expiry) ↔ now < expiry :=
  Iff.rfl

@[simp] theorem not_unexpired_none (now : τ) : ¬ Unexpired now none := id

@[simp] theorem unexpired_some (now expiry : τ) : Unexpired now (some expiry) ↔ now ≤ expiry :=
  Iff.rfl

/-- A live lease has not expired. -/
theorem Live.unexpired {now : τ} {lease : Option τ} (h : Live now lease)
    : Unexpired now lease := by
  cases lease with
  | none => exact h
  | some expiry => exact le_of_lt h

/-- Free and unexpired exclude each other and leave nothing between them. -/
theorem free_iff_not_unexpired {now : τ} {lease : Option τ}
    : Free now lease ↔ ¬ Unexpired now lease := by
  cases lease with
  | none => simp
  | some expiry => simp

/-- Time only ends a lease: one that is live later was live earlier. -/
theorem Live.earlier {now later : τ} {lease : Option τ} (h : Live later lease)
    (le : now ≤ later)
    : Live now lease := by
  cases lease with
  | none => exact h
  | some expiry => exact lt_of_le_of_lt le h

end ControlPlane.Library.Lease
