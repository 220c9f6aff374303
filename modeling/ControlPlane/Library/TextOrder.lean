import ControlPlane.Library.Sorting
import Mathlib.Data.List.Lex
import Mathlib.Data.Prod.Lex

/-! Texts in the order of their UTF-16 code units, and lists of texts sorted in it. -/

namespace ControlPlane.Library.TextOrder

def charUnits (c : Char) : List Nat :=
  if c.toNat < 0x10000 then [c.toNat]
  else [0xD800 + (c.toNat - 0x10000) / 1024, 0xDC00 + (c.toNat - 0x10000) % 1024]

def codeUnits (text : List Char) : List Nat :=
  text.flatMap charUnits

theorem scalar_toNat (c : Char)
    : c.toNat < 0xD800 ∨ (0xDFFF < c.toNat ∧ c.toNat < 0x110000) :=
  c.valid

/-- Two texts have the same code units only where they are one: the first unit of a character tells
whether there is a second.
-/
theorem codeUnits_injective {text other : List Char} (same : codeUnits text = codeUnits other)
    : text = other := by
  have split (c : Char) (rest : List Char) : codeUnits (c :: rest) = charUnits c ++ codeUnits rest :=
    List.flatMap_cons
  have some (c : Char) : charUnits c ≠ [] := by
    rw [charUnits]
    split_ifs <;> simp
  induction text generalizing other with
  | nil =>
      cases other with
      | nil => rfl
      | cons d other => simp [codeUnits, some] at same
  | cons c text ih =>
      cases other with
      | nil => simp [codeUnits, some] at same
      | cons d other =>
          rw [split, split] at same
          have one := scalar_toNat c
          have two := scalar_toNat d
          simp only [charUnits] at same
          have both : c.toNat = d.toNat ∧ codeUnits text = codeUnits other := by
            split_ifs at same with small otherSmall otherSmall
            · simpa using same
            · simp only [List.cons_append, List.nil_append, List.cons.injEq] at same
              omega
            · simp only [List.cons_append, List.nil_append, List.cons.injEq] at same
              omega
            · simp only [List.cons_append, List.nil_append, List.cons.injEq] at same
              obtain ⟨high, low, rest⟩ := same
              exact ⟨by omega, rest⟩
          rw [Char.toNat_inj.mp both.1, ih both.2]

-----------------------------------------------------------------------------------------
-- Sorted texts
-----------------------------------------------------------------------------------------

def sortTexts (texts : List (List Char)) : List (List Char) :=
  sortBy codeUnits texts

end ControlPlane.Library.TextOrder
