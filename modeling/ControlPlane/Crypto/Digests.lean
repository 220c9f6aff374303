import Mathlib.Data.Vector.Defs
import ControlPlane.Library.HexText

/-! Digests of texts: what is stored of a token, and how two secrets are compared. SHA-256 is the
platform's.
-/

namespace ControlPlane.Crypto

open ControlPlane.Library

abbrev Sha256 := String → Vector UInt8 32

/-- Two texts have one digest. -/
def SameDigest (sha256 : Sha256) (first second : String) : Prop :=
  sha256 first = sha256 second

def sha256Hex (sha256 : Sha256) (text : String) : String :=
  String.ofList (hexText (sha256 text).toList)

/-- The digests of both sides are compared, every byte of them. -/
def constantTimeEqual (sha256 : Sha256) (a b : String) : Bool :=
  (List.zipWith (fun x y : UInt8 => x ^^^ y) (sha256 a).toList (sha256 b).toList).foldl (· ||| ·) 0
    = 0

theorem sha256Hex_eq_iff (sha256 : Sha256) (first second : String)
    : sha256Hex sha256 first = sha256Hex sha256 second ↔ SameDigest sha256 first second := by
  constructor
  · intro same
    have texts := congrArg String.toList same
    rw [sha256Hex, sha256Hex, String.toList_ofList, String.toList_ofList] at texts
    exact Vector.toList_inj.mp (hexText_injective texts)
  · intro same
    rw [sha256Hex, sha256Hex, same]

/-- A fold over bytes that are never different ends where it starts, and only then at zero. -/
theorem eq_of_no_byte_difference {first second : List UInt8}
    (sameLength : first.length = second.length) (difference : UInt8)
    : (List.zipWith (fun x y : UInt8 => x ^^^ y) first second).foldl (· ||| ·) difference = 0
      ↔ difference = 0 ∧ first = second := by
  induction first generalizing second difference with
  | nil =>
      have isNil : second = [] := List.eq_nil_of_length_eq_zero sameLength.symm
      simp [isNil]
  | cons x rest ih =>
      cases second with
      | nil => cases sameLength
      | cons y later =>
          rw [List.zipWith_cons_cons, List.foldl_cons, ih (Nat.succ.inj sameLength),
            UInt8.or_eq_zero_iff, UInt8.xor_eq_zero_iff, List.cons.injEq]
          exact and_assoc

/-- Two texts compare equal exactly if their digests do. -/
theorem constantTimeEqual_iff (sha256 : Sha256) (a b : String)
    : constantTimeEqual sha256 a b = true ↔ SameDigest sha256 a b := by
  have sameLength
      : (sha256 a).toList.length = (sha256 b).toList.length := by simp
  rw [constantTimeEqual, decide_eq_true_iff, eq_of_no_byte_difference sameLength,
    and_iff_right rfl, Vector.toList_inj, SameDigest]

end ControlPlane.Crypto
