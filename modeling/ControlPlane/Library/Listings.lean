import Mathlib.Data.List.Nodup
import Mathlib.Order.Lattice

/-! Listings of a sorted set of keys, a page at a time. A page has the next keys behind a position,
and a position behind its own last key when more of them follow. Pages may be short.
-/

namespace ControlPlane.Library

variable {κ : Type*} [LinearOrder κ]

inductive Position (κ : Type*)
  | start
  | after (key : κ)
  deriving DecidableEq, Repr

/-- A position lies before a key. -/
def Position.before (position : Position κ) (key : κ) : Bool :=
  match position with
  | .start => true
  | .after last => last < key

/-- The position behind a page. An empty page does not move it. -/
def Position.advance {κ : Type*} (position : Position κ) (page : List κ) : Position κ :=
  match page.getLast? with
  | none => position
  | some last => .after last

/-- A page of keys, and where to go on when it is cut off. -/
structure Listing (κ : Type*) where
  keys : List κ
  next : Option (Position κ)
  deriving DecidableEq, Repr

def listing (keys : List κ) (position : Position κ) (size : Nat) : Listing κ :=
  let behind := keys.filter position.before
  {
    keys := behind.take size,
    next :=
      if size < behind.length then some (position.advance (behind.take size)) else none
  }

/-- All keys lie behind a position. -/
def Behind (position : Position κ) (keys : List κ) : Prop :=
  ∀ key ∈ keys, position.before key = true

theorem behind_start (keys : List κ) : Behind .start keys :=
  fun _ _ => rfl

/-- Where all keys lie behind the position, a page has the first of them. -/
theorem listing_of_behind {keys : List κ} {position : Position κ} (behind : Behind position keys)
    (size : Nat)
    : listing keys position size
      = {
          keys := keys.take size,
          next :=
            if size < keys.length then some (position.advance (keys.take size)) else none
        } := by
  rw [listing, List.filter_eq_self.mpr behind]

/-- What a page leaves lies behind the position that it ends at. -/
theorem behind_advance {keys : List κ} {position : Position κ}
    (sorted : keys.Pairwise (· < ·)) (behind : Behind position keys) (size : Nat)
    : Behind (position.advance (keys.take size)) (keys.drop size) := by
  intro key left
  cases ends : (keys.take size).getLast? with
  | none =>
      simp only [Position.advance, ends]
      exact behind key (List.mem_of_mem_drop left)
  | some last =>
      have read : last ∈ keys.take size := List.mem_of_getLast? ends
      rw [← List.take_append_drop size keys] at sorted
      have ordered := (List.pairwise_append.mp sorted).2.2 last read key left
      simpa [Position.advance, ends, Position.before] using ordered

/-- Deleting a page leaves what comes after it. -/
theorem filter_not_mem_take {keys : List κ} (distinct : keys.Nodup) (size : Nat)
    : keys.filter (fun key => key ∉ keys.take size) = keys.drop size := by
  have apart := distinct
  rw [← List.take_append_drop size keys, List.nodup_append] at apart
  have page : (keys.take size).filter (fun key => key ∉ keys.take size) = [] := by
    refine List.filter_eq_nil_iff.mpr fun key member outside => ?_
    exact of_decide_eq_true outside member
  have rest : (keys.drop size).filter (fun key => key ∉ keys.take size) = keys.drop size := by
    refine List.filter_eq_self.mpr fun key member => decide_eq_true fun read => ?_
    exact apart.2.2 key read key member rfl
  calc keys.filter (fun key => key ∉ keys.take size)
      = (keys.take size ++ keys.drop size).filter (fun key => key ∉ keys.take size) := by
        rw [List.take_append_drop]
    _ = keys.drop size := by rw [List.filter_append, page, rest, List.nil_append]

/-- The keys that are no longer there. -/
def removed {κ : Type*} [DecidableEq κ] (before after : List κ) : List κ :=
  before.filter fun key => key ∉ after

/-- What is left and what was removed make up the whole, by induction on what was kept. -/
theorem length_removed {before after : List κ} (kept : after.Sublist before)
    (distinct : before.Nodup)
    : (removed before after).length + after.length = before.length := by
  induction kept with
  | slnil => rfl
  | cons key kept ih =>
      obtain ⟨outside, apart⟩ := List.nodup_cons.mp distinct
      have count := ih apart
      rename_i after before
      have gone : key ∉ after := fun stayed => outside (kept.subset stayed)
      have more : removed (key :: before) after = key :: removed before after :=
        List.filter_cons_of_pos (decide_eq_true gone)
      rw [more, List.length_cons, List.length_cons]
      omega
  | cons_cons key kept ih =>
      obtain ⟨outside, apart⟩ := List.nodup_cons.mp distinct
      have count := ih apart
      rename_i after before
      have same : removed (key :: before) (key :: after) = removed before after := by
        rw [removed, List.filter_cons_of_neg (by simp)]
        refine List.filter_congr fun other member => ?_
        have differs : other ≠ key := fun isKey => outside (isKey ▸ member)
        simp [differs]
      rw [same, List.length_cons, List.length_cons]
      omega

end ControlPlane.Library
