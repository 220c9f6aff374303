import ControlPlane.Library.JsonText

/-! Bytes written as two lower-case hexadecimal digits each. -/

namespace ControlPlane.Library

/-- A digit that bytes are written with. -/
def isLowerHex (c : Char) : Bool :=
  ('0' ≤ c ∧ c ≤ '9') ∨ ('a' ≤ c ∧ c ≤ 'f')

def hexText (bytes : List UInt8) : List Char :=
  bytes.flatMap fun byte => [Json.hexDigit (byte.toNat / 16), Json.hexDigit (byte.toNat % 16)]

theorem isLowerHex_hexDigit {value : Nat} (below : value < 16)
    : isLowerHex (Json.hexDigit value) = true := by
  have all : ∀ value < 16, isLowerHex (Json.hexDigit value) = true := by decide
  exact all value below

/-- There are two digits to a byte, by induction on the bytes. -/
@[simp] theorem length_hexText (bytes : List UInt8)
    : (hexText bytes).length = 2 * bytes.length := by
  induction bytes with
  | nil => rfl
  | cons byte bytes ih =>
      simp only [hexText, List.flatMap_cons, List.length_append, List.length_cons,
        List.length_nil] at ih ⊢
      omega

theorem hexDigit_injective {value other : Nat} (below : value < 16) (otherBelow : other < 16)
    (same : Json.hexDigit value = Json.hexDigit other)
    : value = other := by
  have all : ∀ value < 16, ∀ other < 16, Json.hexDigit value = Json.hexDigit other
      → value = other := by decide
  exact all value below other otherBelow same

/-- A text was written of one list of bytes, by induction on them. -/
theorem hexText_injective {bytes other : List UInt8} (same : hexText bytes = hexText other)
    : bytes = other := by
  induction bytes generalizing other with
  | nil =>
      have sameLength := congrArg List.length same
      rw [length_hexText, length_hexText, List.length_nil] at sameLength
      exact (List.eq_nil_of_length_eq_zero (by omega)).symm
  | cons byte bytes ih =>
      cases other with
      | nil => cases same
      | cons first rest =>
          simp only [hexText, List.flatMap_cons, List.cons_append, List.nil_append,
            List.cons.injEq] at same
          obtain ⟨high, low, later⟩ := same
          have bound : byte.toNat < 256 := byte.toNat_lt
          have firstBound : first.toNat < 256 := first.toNat_lt
          have highs := hexDigit_injective (by omega) (by omega) high
          have lows := hexDigit_injective (by omega) (by omega) low
          have isFirst : byte = first := UInt8.toNat_inj.mp (by omega)
          rw [isFirst, ih later]

/-- All that is written is the digit of some value, by induction on the bytes. -/
theorem exists_of_mem_hexText {bytes : List UInt8} {c : Char} (written : c ∈ hexText bytes)
    : ∃ value < 16, c = Json.hexDigit value := by
  induction bytes with
  | nil => exact nomatch written
  | cons byte bytes ih =>
      have bound : byte.toNat < 256 := byte.toNat_lt
      simp only [hexText, List.flatMap_cons, List.cons_append, List.nil_append,
        List.mem_cons] at written
      rcases written with high | low | later
      · exact ⟨byte.toNat / 16, by omega, high⟩
      · exact ⟨byte.toNat % 16, by omega, low⟩
      · exact ih later

theorem isLowerHex_of_mem_hexText {bytes : List UInt8} {c : Char} (written : c ∈ hexText bytes)
    : isLowerHex c = true := by
  obtain ⟨value, below, isDigit⟩ := exists_of_mem_hexText written
  rw [isDigit]
  exact isLowerHex_hexDigit below

/-- What is no digit is in no written byte. -/
theorem not_mem_hexText (bytes : List UInt8) {c : Char} (other : isLowerHex c = false)
    : c ∉ hexText bytes := by
  intro written
  rw [isLowerHex_of_mem_hexText written] at other
  exact nomatch other

end ControlPlane.Library
