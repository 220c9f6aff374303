import ControlPlane.Routing.Dispatch

/-! The slug field of the onboarding page, beside the rule of the server. The page mirrors the
shape of a slug, and a part of the labels that no tenant may have.
-/

namespace ControlPlane.Onboarding

open ControlPlane.Kek (trim)
open ControlPlane.Routing

inductive HintLevel
  | empty
  | warn
  | ok
  deriving DecidableEq, Repr

/-- What the page says beside a field. -/
structure SlugHint where
  level : HintLevel
  valid : Bool
  message : String
  deriving DecidableEq, Repr

def SLUG_RESERVED : List String :=
  ["www", "api", "admin", "demo", "studio", "mcp", "app", "status", "mail"]

def SlugHint.warning (message : String) : SlugHint where
  level := .warn
  valid := false
  message := message

section

variable (toLowerCase : String → String)

/-- What is sent of the field's text. -/
def normalizedSlug (raw : String) : String :=
  toLowerCase (trim raw)

def slugHint (raw : String) : SlugHint :=
  let slug := normalizedSlug toLowerCase raw
  if slug = "" then { level := .empty, valid := false, message := "" }
  else if utf16Length slug < 3 then .warning "A bit longer, please: at least 3 characters."
  else if utf16Length slug > 32 then
    .warning "That is too long. Keep it to 32 characters or fewer."
  else if slug ∈ SLUG_RESERVED then
    .warning ("\"" ++ slug ++ "\" is reserved for us. Pick another name.")
  else if !matchesSlug slug then
    .warning "Use lowercase letters, numbers, and dashes; start and end with a letter or number."
  else { level := .ok, valid := true, message := "" }

end

/-- The labels that only the server reserves. -/
def serverReserved : List String :=
  reservedSlugs.filter fun label => label ∉ SLUG_RESERVED

/-- A slug of the right shape that the server alone knows not to be had: a label of its own list, or
a punycode label.
-/
def RefusedByServerOnly (slug : String) : Prop :=
  matchesSlug slug = true ∧ ("xn--".toList <+: slug.toList ∨ slug ∈ serverReserved)

-----------------------------------------------------------------------------------------
-- The two rules
-----------------------------------------------------------------------------------------

/-- A slug is written in ASCII, where a character is one UTF-16 unit. -/
theorem utf16Length_of_matchesSlug {slug : String} (shaped : matchesSlug slug = true)
    : utf16Length slug = slug.toList.length ∧ 3 ≤ slug.toList.length
      ∧ slug.toList.length ≤ 32 := by
  simp only [matchesSlug, Bool.and_eq_true, decide_eq_true_eq] at shaped
  obtain ⟨⟨⟨bounds, inAlphabet⟩, _⟩, _⟩ := shaped
  refine ⟨?_, bounds⟩
  have units : ∀ c ∈ slug.toList, (if c.toNat < 0x10000 then 1 else 2) = 1 := by
    intro c member
    have ascii : c.toNat < 0x10000 := by
      have inside := List.all_eq_true.mp inAlphabet c member
      simp only [isSlugEnd, Bool.or_eq_true, Bool.and_eq_true, decide_eq_true_eq,
        Char.le_def, UInt32.le_iff_toNat_le] at inside
      rcases inside with (letter | digit) | hyphen
      · have bound : c.toNat ≤ 122 := letter.2
        omega
      · have bound : c.toNat ≤ 57 := digit.2
        omega
      · rw [hyphen]
        decide
    exact if_pos ascii
  rw [utf16Length, List.map_congr_left units, List.map_const', List.sum_replicate]
  simp

/-- The server takes a slug of the right shape that is neither punycode nor reserved. -/
theorem validateSlug_ok_iff (slug : String)
    : validateSlug slug = .ok ()
      ↔ matchesSlug slug = true ∧ ¬ "xn--".toList <+: slug.toList ∧ slug ∉ reservedSlugs := by
  constructor
  · intro taken
    unfold validateSlug at taken
    split at taken
    next => exact nomatch taken
    next =>
      split at taken
      next => exact nomatch taken
      next =>
        split at taken
        next => exact nomatch taken
        next shaped =>
          split at taken
          next => exact nomatch taken
          next plain =>
            split at taken
            next => exact nomatch taken
            next free =>
              rw [List.isPrefixOf_iff_prefix] at plain
              exact ⟨by simpa using shaped, plain, free⟩
  · intro h
    obtain ⟨shaped, plain, free⟩ := h
    obtain ⟨units, long, short⟩ := utf16Length_of_matchesSlug shaped
    rw [validateSlug, if_neg (by omega), if_neg (by omega), if_neg (by simp [shaped]),
      if_neg (by rwa [List.isPrefixOf_iff_prefix]), if_neg free]

/-- The page takes a slug of the right shape that is none of its own reserved labels. -/
theorem slugHint_valid_iff (toLowerCase : String → String) (raw : String)
    : (slugHint toLowerCase raw).valid = true
      ↔ matchesSlug (normalizedSlug toLowerCase raw) = true
        ∧ normalizedSlug toLowerCase raw ∉ SLUG_RESERVED := by
  unfold slugHint
  dsimp only
  generalize normalizedSlug toLowerCase raw = slug
  constructor
  · intro valid
    split at valid
    next => exact nomatch valid
    next =>
      split at valid
      next => exact nomatch valid
      next =>
        split at valid
        next => exact nomatch valid
        next =>
          split at valid
          next => exact nomatch valid
          next free =>
            split at valid
            next => exact nomatch valid
            next shaped => exact ⟨by simpa using shaped, free⟩
  · intro h
    obtain ⟨shaped, free⟩ := h
    obtain ⟨units, long, short⟩ := utf16Length_of_matchesSlug shaped
    have nonempty : slug ≠ "" := by
      intro h
      obtain rfl := h
      exact absurd long (by decide)
    rw [if_neg nonempty, if_neg (by omega), if_neg (by omega), if_neg free,
      if_neg (by simp [shaped])]

/-- Page and server agree on a text exactly when what is sent of it is not refused by the server
alone.
-/
theorem slugHint_mirrors_iff (toLowerCase : String → String) (raw : String)
    : ((slugHint toLowerCase raw).valid = true
        ↔ validateSlug (normalizedSlug toLowerCase raw) = .ok ())
      ↔ ¬ RefusedByServerOnly (normalizedSlug toLowerCase raw) := by
  rw [slugHint_valid_iff, validateSlug_ok_iff]
  generalize normalizedSlug toLowerCase raw = slug
  have mirrored : slug ∈ SLUG_RESERVED → slug ∈ reservedSlugs := by
    have all : ∀ label ∈ SLUG_RESERVED, label ∈ reservedSlugs := by decide
    exact all slug
  have split : slug ∈ serverReserved ↔ slug ∈ reservedSlugs ∧ slug ∉ SLUG_RESERVED := by
    simp [serverReserved]
  rw [RefusedByServerOnly, split]
  have noPunycode : slug ∈ SLUG_RESERVED → ¬ "xn--".toList <+: slug.toList := by
    have all : ∀ label ∈ SLUG_RESERVED, ¬ "xn--".toList <+: label.toList := by decide
    exact all slug
  tauto

/-- The page lets a label through that the server reserves. -/
theorem root_letThrough
    : ¬ ((slugHint (String.map Char.toLower) "root").valid = true
        ↔ validateSlug (normalizedSlug (String.map Char.toLower) "root") = .ok ()) := by
  decide +kernel

end ControlPlane.Onboarding
