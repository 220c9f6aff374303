import Mathlib.Data.List.Basic

/-! Maps that are filled by one write after another. A key holds what was written to it last.
-/

namespace ControlPlane.Library

/-- A list with a member of a kind is cut at the last such member, by induction on the list. -/
theorem exists_last {α : Type*} {P : α → Prop} {list : List α} (some : ∃ item ∈ list, P item)
    : ∃ before item after, list = before ++ item :: after ∧ P item ∧ ∀ later ∈ after, ¬ P later := by
  induction list with
  | nil => exact absurd some (by simp)
  | cons head rest ih =>
      by_cases again : ∃ item ∈ rest, P item
      · obtain ⟨before, item, after, isRest, holds, others⟩ := ih again
        exact ⟨head :: before, item, after, by rw [isRest, List.cons_append], holds, others⟩
      · have others : ∀ item ∈ rest, ¬ P item := fun item member holds =>
          again ⟨item, member, holds⟩
        obtain ⟨item, member, holds⟩ := some
        rcases List.mem_cons.mp member with here | there
        · exact ⟨[], head, rest, rfl, here ▸ holds, others⟩
        · exact absurd holds (others item there)

/-- A map, as the writes that made it, the last one first. -/
structure WriteMap (κ ν : Type*) where
  writes : List (κ × ν)

namespace WriteMap

variable {κ ν : Type*}

def empty : WriteMap κ ν where
  writes := []

def set (map : WriteMap κ ν) (key : κ) (value : ν) : WriteMap κ ν where
  writes := (key, value) :: map.writes

/-- One write after another. -/
def setAll (map : WriteMap κ ν) (writes : List (κ × ν)) : WriteMap κ ν :=
  writes.foldl (fun map write => map.set write.1 write.2) map

@[simp] theorem setAll_nil (map : WriteMap κ ν) : map.setAll [] = map := rfl

@[simp] theorem setAll_cons (map : WriteMap κ ν) (write : κ × ν) (later : List (κ × ν))
    : map.setAll (write :: later) = (map.set write.1 write.2).setAll later := rfl

/-- Writing two lists is writing the one and then the other. -/
theorem setAll_append (map : WriteMap κ ν) (first second : List (κ × ν))
    : map.setAll (first ++ second) = (map.setAll first).setAll second :=
  List.foldl_append

/-- The writes of a list, cut at the last one to a key. -/
theorem last_write {writes : List (κ × ν)} {key : κ} (written : ∃ write ∈ writes, write.1 = key)
    : ∃ before value after,
        writes = before ++ (key, value) :: after ∧ ∀ write ∈ after, write.1 ≠ key := by
  obtain ⟨before, write, after, isWrites, isKey, others⟩ := exists_last written
  subst isKey
  exact ⟨before, write.2, after, isWrites, others⟩

/-- What is written to a map stands before what it held, by induction on the writes. -/
theorem setAll_writes (map : WriteMap κ ν) (writes : List (κ × ν))
    : (map.setAll writes).writes = writes.reverse ++ map.writes := by
  induction writes generalizing map with
  | nil => rfl
  | cons write later ih =>
      rw [setAll_cons, ih, List.reverse_cons, List.append_assoc]
      rfl

variable [DecidableEq κ]

def get? (map : WriteMap κ ν) (key : κ) : Option ν :=
  (map.writes.find? fun write => write.1 = key).map Prod.snd

/-- Whether the map holds anything under a key. -/
def has (map : WriteMap κ ν) (key : κ) : Bool :=
  (map.get? key).isSome

@[simp] theorem get?_empty (key : κ) : (empty : WriteMap κ ν).get? key = none := rfl

/-- A key holds what was just written to it, and every other key what it held. -/
theorem get?_set (map : WriteMap κ ν) (written key : κ) (value : ν)
    : (map.set written value).get? key = if written = key then some value else map.get? key := by
  by_cases same : written = key <;> simp [get?, set, same]

/-- Writes to other keys change nothing, by induction on the writes. -/
theorem get?_setAll_of_ne {writes : List (κ × ν)} {key : κ}
    (others : ∀ write ∈ writes, write.1 ≠ key) (map : WriteMap κ ν)
    : (map.setAll writes).get? key = map.get? key := by
  induction writes generalizing map with
  | nil => rfl
  | cons write later ih =>
      have here : write.1 ≠ key := others write (List.mem_cons_self ..)
      have rest := ih (fun other member => others other (List.mem_cons_of_mem _ member))
      rw [setAll_cons, rest, get?_set, if_neg here]

/-- A key holds the last value written to it: what is written afterwards goes elsewhere. -/
theorem get?_setAll_last {before after : List (κ × ν)} {key : κ} {value : ν}
    (others : ∀ write ∈ after, write.1 ≠ key) (map : WriteMap κ ν)
    : (map.setAll (before ++ (key, value) :: after)).get? key = some value := by
  rw [setAll_append, setAll_cons, get?_setAll_of_ne others, get?_set, if_pos rfl]

/-- What a key holds was written to it, after everything else that was. -/
theorem get?_setAll_empty {writes : List (κ × ν)} {key : κ} {value : ν}
    : ((empty : WriteMap κ ν).setAll writes).get? key = some value
      ↔ ∃ before after,
          writes = before ++ (key, value) :: after ∧ ∀ write ∈ after, write.1 ≠ key := by
  constructor
  · intro found
    have written : ∃ write ∈ writes, write.1 = key := by
      by_contra none
      have others : ∀ write ∈ writes, write.1 ≠ key := by
        intro write member same
        exact none ⟨write, member, same⟩
      rw [get?_setAll_of_ne others, get?_empty] at found
      cases found
    obtain ⟨before, last, after, isWrites, others⟩ := last_write written
    rw [isWrites, get?_setAll_last others] at found
    cases found
    exact ⟨before, after, isWrites, others⟩
  · intro h
    obtain ⟨before, after, isWrites, others⟩ := h
    rw [isWrites]
    exact get?_setAll_last others empty

/-- What a key holds is the last write to it. -/
theorem get?_setAll_find (writes : List (κ × ν)) (key : κ)
    : ((empty : WriteMap κ ν).setAll writes).get? key
      = (writes.reverse.find? fun write => write.1 = key).map Prod.snd := by
  simp [get?, setAll_writes, empty]

/-- A map from the keys of things to the things holds the last thing with a key. -/
theorem get?_setAll_keyed (key : ν → κ) (things : List ν) (wanted : κ)
    : ((empty : WriteMap κ ν).setAll (things.map fun thing => (key thing, thing))).get? wanted
      = things.reverse.find? fun thing => key thing = wanted := by
  rw [get?_setAll_find, ← List.map_reverse, List.find?_map, Option.map_map]
  exact Option.map_id_apply

/-- A map holds something under the keys that were written, and under no others. -/
theorem has_setAll_empty {writes : List (κ × ν)} {key : κ}
    : ((empty : WriteMap κ ν).setAll writes).has key ↔ ∃ write ∈ writes, write.1 = key := by
  rw [has, Option.isSome_iff_exists]
  constructor
  · intro h
    obtain ⟨value, found⟩ := h
    obtain ⟨before, after, isWrites, _⟩ := get?_setAll_empty.mp found
    exact ⟨(key, value), by simp [isWrites], rfl⟩
  · intro written
    obtain ⟨before, value, after, isWrites, others⟩ := last_write written
    exact ⟨value, get?_setAll_empty.mpr ⟨before, after, isWrites, others⟩⟩

end WriteMap
end ControlPlane.Library
