import ControlPlane.Kek.TokenCrypto
import ControlPlane.Library.TextParts

/-! The cookie header: how the session token is read from it, and how the session cookie is taken
out of it before a tenant's worker sees it.
-/

namespace ControlPlane.Routing

open ControlPlane.Kek
open ControlPlane.Library

/-- The headers of a request, their names in lower case. -/
structure Headers where
  entries : List (String × String)
  deriving DecidableEq, Repr

namespace Headers

/-- The values under a name, joined. -/
def get (headers : Headers) (name : String) : Option String :=
  match headers.entries.filter fun entry => entry.1 = name with
  | [] => none
  | found => some (", ".intercalate (found.map Prod.snd))

def delete (headers : Headers) (name : String) : Headers where
  entries := headers.entries.filter fun entry => entry.1 ≠ name

/-- One value under a name, in place of all there were. A text that is no header value throws. -/
def set (isValue : String → Bool) (headers : Headers) (name value : String) : Option Headers :=
  if isValue value then some ⟨(headers.delete name).entries ++ [(name, value)]⟩ else none

@[simp] theorem get_delete (headers : Headers) (name : String)
    : (headers.delete name).get name = none := by
  simp [get, delete]

theorem get_delete_of_ne (headers : Headers) {name other : String} (differs : other ≠ name)
    : (headers.delete name).get other = headers.get other := by
  have same : (headers.delete name).entries.filter (fun entry => entry.1 = other)
      = headers.entries.filter fun entry => entry.1 = other := by
    rw [delete, List.filter_filter]
    refine List.filter_congr fun entry _ => ?_
    by_cases isOther : entry.1 = other
    · simp [isOther, differs]
    · simp [isOther]
  rw [get, get, same]

/-- A name holds the value that was set. -/
theorem get_set {isValue : String → Bool} {headers changed : Headers} {name value : String}
    (written : headers.set isValue name value = some changed)
    : changed.get name = some value := by
  obtain ⟨_, isChanged⟩ := Option.ite_none_right_eq_some.mp written
  rw [← Option.some.inj isChanged]
  simp [get, delete, List.filter_append]

theorem get_set_of_ne {isValue : String → Bool} {headers changed : Headers}
    {name other value : String} (written : headers.set isValue name value = some changed)
    (differs : other ≠ name)
    : changed.get other = headers.get other := by
  obtain ⟨_, isChanged⟩ := Option.ite_none_right_eq_some.mp written
  have before := get_delete_of_ne headers differs
  rw [← Option.some.inj isChanged, ← before]
  simp [get, List.filter_append, Ne.symm differs]

end Headers

--------------------------------------------------------------------------------
-- Reading and stripping
--------------------------------------------------------------------------------

def SESSION_COOKIE : String := "__Secure-vp_session"

/-- The parts of a text between a separator. -/
def split (separator : Char) (text : String) : List String :=
  (text.toList.splitOn separator).map String.ofList

/-- The parts of a cookie header, without the margins around them. -/
def cookieParts (raw : String) : List String :=
  (split ';' raw).map trim

/-- The name of a cookie: what stands before the first equals sign. -/
def cookieName (part : String) : String :=
  (split '=' part).headD ""

/-- What stands after the first equals sign. -/
def cookieValue (part : String) : String :=
  "=".intercalate (split '=' part).tail

/-- The value of the first part that is named as the session, unless it is empty. -/
def sessionAmong : List String → Option String
  | [] => none
  | part :: later =>
      if cookieName part = SESSION_COOKIE then
        if cookieValue part = "" then none else some (cookieValue part)
      else sessionAmong later

/-- The session token that the headers carry. -/
def readSessionCookie (headers : Headers) : Option String :=
  match (headers.get "cookie").filter (· ≠ "") with
  | none => none
  | some raw => sessionAmong (cookieParts raw)

/-- A part that starts as the session cookie does. -/
def startsAsSession (part : String) : Bool :=
  (SESSION_COOKIE ++ "=").toList.isPrefixOf part.toList

/-- The headers without the session cookie. -/
def stripSessionCookie (isValue : String → Bool) (headers : Headers) : Option Headers :=
  match (headers.get "cookie").filter (· ≠ "") with
  | none => some headers
  | some raw =>
      let kept := (cookieParts raw).filter fun part => part ≠ "" ∧ startsAsSession part = false
      if kept ≠ [] then headers.set isValue "cookie" ("; ".intercalate kept)
      else some (headers.delete "cookie")

/-- The cookies of a header: the parts that are not empty. -/
def cookiePairs (headers : Headers) : List String :=
  (cookieParts ((headers.get "cookie").getD "")).filter fun part => part ≠ ""

/-- The cookies of a header that are not the session's, in their order. -/
def otherCookies (headers : Headers) : List String :=
  (cookiePairs headers).filter fun part => cookieName part ≠ SESSION_COOKIE

--------------------------------------------------------------------------------
-- What is left of a header
--------------------------------------------------------------------------------

theorem trim_eq_strip (text : String)
    : trim text = String.ofList (TextParts.strip isTrimmed text.toList) := rfl

@[simp] theorem trim_trim (text : String) : trim (trim text) = trim text := by
  rw [trim_eq_strip, trim_eq_strip, String.toList_ofList, TextParts.strip_strip]

/-- A part of a header: it has no margins and holds no semicolon. -/
structure CookiePart (part : String) : Prop where
  trimmed : trim part = part
  whole : ';' ∉ part.toList

/-- The parts of a header are parts. -/
theorem cookiePart_of_mem {raw part : String} (isPart : part ∈ cookieParts raw)
    : CookiePart part := by
  obtain ⟨piece, isPiece, isTrim⟩ := List.mem_map.mp isPart
  obtain ⟨chars, cut, isChars⟩ := List.mem_map.mp isPiece
  subst isTrim isChars
  refine ⟨trim_trim _, ?_⟩
  rw [trim_eq_strip, String.toList_ofList, String.toList_ofList]
  intro held
  exact TextParts.not_mem_of_mem_splitOn cut ((TextParts.strip_sublist isTrimmed chars).mem held)

/-- Parts that are joined again are the parts of the header they make. -/
theorem cookieParts_intercalate {first : String} {others : List String}
    (parts : ∀ part ∈ first :: others, CookiePart part)
    : cookieParts ("; ".intercalate (first :: others)) = first :: others := by
  have clean : ∀ chars ∈ first.toList :: others.map String.toList, ';' ∉ chars := by
    intro chars member
    rw [← List.map_cons] at member
    obtain ⟨part, isPart, isChars⟩ := List.mem_map.mp member
    rw [← isChars]
    exact (parts part isPart).whole
  have joined : ("; ".intercalate (first :: others)).toList
      = [';', ' '].intercalate (first.toList :: others.map String.toList) := by
    rw [String.toList_intercalate, List.map_cons]
    rfl
  have padded : ∀ part ∈ others, trim (String.ofList (' ' :: part.toList)) = part := by
    intro part isPart
    rw [trim_eq_strip, String.toList_ofList, TextParts.strip_cons_of_pos isTrimmed rfl,
      ← trim_eq_strip]
    exact (parts part (List.mem_cons_of_mem _ isPart)).trimmed
  rw [cookieParts, split, joined, TextParts.splitOn_intercalate_padded (by decide) clean]
  simp only [List.map_cons, List.map_map, String.ofList_toList,
    (parts first (List.mem_cons_self ..)).trimmed]
  refine congrArg (first :: ·) ?_
  exact (List.map_congr_left padded).trans (List.map_id others)

/-- A part that is named as the session is the bare name, or starts as the session cookie. -/
theorem session_name {part : String} (named : cookieName part = SESSION_COOKIE)
    : part = SESSION_COOKIE ∨ startsAsSession part := by
  have whole : ['='].intercalate (part.toList.splitOn '=') = part.toList :=
    List.intercalate_splitOn '='
  cases cut : part.toList.splitOn '=' with
  | nil => exact absurd cut (List.splitOn_ne_nil '=' part.toList)
  | cons name values =>
      have isName : name = SESSION_COOKIE.toList := by
        rw [← named, cookieName, split, cut]
        simp
      rw [cut] at whole
      cases values with
      | nil =>
          left
          rw [List.intercalate_singleton] at whole
          rw [← String.toList_inj, ← whole, isName]
      | cons value later =>
          right
          rw [List.intercalate_cons_cons, isName] at whole
          rw [startsAsSession, List.isPrefixOf_iff_prefix, ← whole, String.toList_append]
          exact ⟨_, rfl⟩

/-- A part that starts as the session cookie is named as the session. -/
theorem cookieName_of_startsAsSession {part : String} (starts : startsAsSession part)
    : cookieName part = SESSION_COOKIE := by
  rw [startsAsSession, List.isPrefixOf_iff_prefix, String.toList_append] at starts
  obtain ⟨rest, isPart⟩ := starts
  have clean : '=' ∉ SESSION_COOKIE.toList := by decide
  have cut : part.toList.splitOn '=' = SESSION_COOKIE.toList :: rest.splitOn '=' := by
    rw [← isPart, List.append_assoc]
    exact List.splitOn_append_cons_self_of_not_mem clean rest
  rw [cookieName, split, cut]
  simp

/-- Where no part starts as the session cookie, no session is read, by induction on the parts. -/
theorem sessionAmong_eq_none {parts : List String}
    (none : ∀ part ∈ parts, startsAsSession part = false)
    : sessionAmong parts = Option.none := by
  induction parts with
  | nil => rfl
  | cons part later ih =>
      have rest := ih fun other member => none other (List.mem_cons_of_mem _ member)
      unfold sessionAmong
      split
      next named =>
        rcases session_name named with bare | starts
        · rw [bare]
          decide
        · rw [none part (List.mem_cons_self ..)] at starts
          exact nomatch starts
      next => exact rest

/-- The cookies that stripping keeps. -/
def keptCookies (headers : Headers) : List String :=
  (cookiePairs headers).filter fun part => startsAsSession part = false

/-- The cookies of the stripped headers are the kept ones, in their order. -/
theorem cookiePairs_strip {isValue : String → Bool} {headers stripped : Headers}
    (isStripped : stripSessionCookie isValue headers = some stripped)
    : cookiePairs stripped = keptCookies headers := by
  have none_pairs : cookieParts "" = [""] := by decide
  unfold stripSessionCookie at isStripped
  cases there : (headers.get "cookie").filter (· ≠ "") with
  | none =>
      rw [there] at isStripped
      have empty : (headers.get "cookie").getD "" = "" := by
        cases raw : headers.get "cookie" with
        | none => rfl
        | some text => simpa [raw] using there
      rw [← Option.some.inj isStripped, keptCookies, cookiePairs, empty, none_pairs]
      rfl
  | some raw =>
      obtain ⟨isRaw, notEmpty⟩ := Option.filter_eq_some_iff.mp there
      have kept : (cookieParts raw).filter (fun part => part ≠ "" ∧ startsAsSession part = false)
          = keptCookies headers := by
        rw [keptCookies, cookiePairs, isRaw, Option.getD_some, List.filter_filter]
        refine List.filter_congr fun part _ => ?_
        rw [Bool.and_comm, Bool.decide_and]
      rw [there] at isStripped
      simp only [kept] at isStripped
      cases left : keptCookies headers with
      | nil =>
          rw [left] at isStripped
          rw [← Option.some.inj isStripped, cookiePairs, Headers.get_delete, Option.getD_none,
            none_pairs]
          rfl
      | cons first others =>
          rw [left] at isStripped
          have parts : ∀ part ∈ first :: others, CookiePart part ∧ part ≠ "" := by
            intro part member
            rw [← left, keptCookies, cookiePairs, isRaw] at member
            obtain ⟨isPair, _⟩ := List.mem_filter.mp member
            obtain ⟨isPart, nonempty⟩ := List.mem_filter.mp isPair
            exact ⟨cookiePart_of_mem isPart, of_decide_eq_true nonempty⟩
          rw [cookiePairs, Headers.get_set isStripped, Option.getD_some,
            cookieParts_intercalate fun part member => (parts part member).1]
          exact List.filter_eq_self.mpr fun part member => decide_eq_true (parts part member).2

/-- No session is read from stripped headers. -/
theorem readSessionCookie_strip {isValue : String → Bool} {headers stripped : Headers}
    (isStripped : stripSessionCookie isValue headers = some stripped)
    : readSessionCookie stripped = none := by
  have pairs := cookiePairs_strip isStripped
  unfold readSessionCookie
  cases there : (stripped.get "cookie").filter (· ≠ "") with
  | none => rfl
  | some raw =>
      obtain ⟨isRaw, _⟩ := Option.filter_eq_some_iff.mp there
      refine sessionAmong_eq_none fun part member => ?_
      by_cases empty : part = ""
      · rw [empty]
        decide
      · have isPair : part ∈ cookiePairs stripped := by
          rw [cookiePairs, isRaw]
          exact List.mem_filter.mpr ⟨member, decide_eq_true empty⟩
        rw [pairs, keptCookies] at isPair
        exact of_decide_eq_true (List.mem_filter.mp isPair).2

/-- Stripping leaves the other cookies as they were. -/
theorem otherCookies_strip {isValue : String → Bool} {headers stripped : Headers}
    (isStripped : stripSessionCookie isValue headers = some stripped)
    : otherCookies stripped = otherCookies headers := by
  rw [otherCookies, cookiePairs_strip isStripped, keptCookies, otherCookies, List.filter_filter]
  refine List.filter_congr fun part _ => ?_
  cases starts : startsAsSession part with
  | false => simp
  | true => simp [cookieName_of_startsAsSession starts]

/-- Stripping leaves the other headers as they were. -/
theorem get_strip_of_ne {isValue : String → Bool} {headers stripped : Headers} {name : String}
    (isStripped : stripSessionCookie isValue headers = some stripped) (differs : name ≠ "cookie")
    : stripped.get name = headers.get name := by
  unfold stripSessionCookie at isStripped
  split at isStripped
  · rw [Option.some.inj isStripped]
  · dsimp only at isStripped
    split at isStripped
    · exact Headers.get_set_of_ne isStripped differs
    · rw [← Option.some.inj isStripped]
      exact Headers.get_delete_of_ne headers differs

end ControlPlane.Routing
