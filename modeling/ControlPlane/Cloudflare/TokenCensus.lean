import ControlPlane.Library.Pages
import ControlPlane.InvokeKey.Scope

/-! The tokens of the Cloudflare account, read page by page, and a token found and revoked by its
name. The account serves its tokens in pages of 50.
-/

namespace ControlPlane.Cloudflare

open ControlPlane.InvokeKey (isOk)
open ControlPlane.Library

-----------------------------------------------------------------------------------------
-- Calls
-----------------------------------------------------------------------------------------

/-- An error of the API, in its own words. -/
structure CfError where
  code : Option Int
  message : String
  deriving DecidableEq, Repr

/-- What a call throws. -/
inductive CfFailure
  | transport
  | api (operation : String) (status : Nat) (cfErrors : List CfError)
  deriving DecidableEq, Repr

/-- A row of a listing. A field is absent where it is no text. -/
structure TokenRow where
  id : Option String
  name : Option String
  deriving DecidableEq, Repr

structure AccountTokenSummary where
  id : String
  name : String
  deriving DecidableEq, Repr

/-- A body. The rows are absent where the result is no array. -/
structure CfEnvelope where
  success : Bool
  errors : List CfError := []
  result : Option (List TokenRow) := none
  totalPages : Option Int := none
  deriving DecidableEq, Repr

/-- A fetch throws, or it is answered. The envelope is absent where the body is no JSON. -/
inductive CfAnswer
  | threw
  | answered (status : Nat) (body : Option CfEnvelope)
  deriving DecidableEq, Repr

/-- The envelope of a call that went well. -/
def call (operation : String) (answer : CfAnswer) : Except CfFailure CfEnvelope :=
  match answer with
  | .threw => .error .transport
  | .answered status none => .error (.api operation status [])
  | .answered status (some body) =>
      if !isOk status ∨ !body.success then .error (.api operation status body.errors)
      else .ok body

-----------------------------------------------------------------------------------------
-- The census
-----------------------------------------------------------------------------------------

def perPage : Nat := 50

/-- Pages are capped, so that an answer without end cannot keep the worker in the loop. -/
def pageCap : Nat := 40

def TokenRow.summary (row : TokenRow) : Option AccountTokenSummary :=
  match row.id, row.name with
  | some id, some name => some { id, name }
  | _, _ => none

/-- The pages from one on, as long as the cap allows; what the earlier ones had is kept. -/
def listFrom (serve : Nat → CfAnswer)
    : Nat → Nat → List AccountTokenSummary → Except CfFailure (List AccountTokenSummary)
  | 0, _, out => .ok out
  | guard + 1, page, out =>
      match call "tokens.list" (serve page) with
      | .error failure => .error failure
      | .ok body =>
          let batch := body.result.getD []
          let out := out ++ batch.filterMap TokenRow.summary
          match body.totalPages.filter fun total => 0 < total with
          | some totalPages =>
              if totalPages ≤ page then .ok out else listFrom serve guard (page + 1) out
          | none =>
              if batch.length < perPage then .ok out else listFrom serve guard (page + 1) out

def listAccountTokens (serve : Nat → CfAnswer)
    : Except CfFailure (List AccountTokenSummary) :=
  listFrom serve pageCap 1 []

/-- The filtered listing is preferred. Where it fails or has no token of the name, the census
decides. -/
def findTokenByName (serve : Nat → CfAnswer) (filtered : CfAnswer) (name : String)
    : Except CfFailure (Option AccountTokenSummary) :=
  let hit :=
    match call "tokens.listByName" filtered with
    | .error _ => none
    | .ok body => (body.result.getD []).find? fun row : TokenRow => row.name = some name
  match hit with
  -- The id goes into a path, so an absent one is spelled.
  | some row => .ok (some { id := row.id.getD "undefined", name })
  | none =>
      (listAccountTokens serve).map fun all : List AccountTokenSummary =>
        all.find? fun token => token.name = name

def revokeToken (deleted : String → CfAnswer) (tokenId : String) : Except CfFailure Unit :=
  (call "tokens.delete" (deleted tokenId)).map fun _ => ()

/-- The answer of a revocation, and the token whose deletion was asked for. -/
structure Revocation where
  answer : Except CfFailure Bool
  asked : Option String

def revokeTokenByName (serve : Nat → CfAnswer) (filtered : CfAnswer) (deleted : String → CfAnswer)
    (name : String)
    : Revocation :=
  match findTokenByName serve filtered name with
  | .error failure => { answer := .error failure, asked := none }
  | .ok none => { answer := .ok false, asked := none }
  | .ok (some hit) =>
      { answer := (revokeToken deleted hit.id).map fun _ => true, asked := some hit.id }

-----------------------------------------------------------------------------------------
-- The account
-----------------------------------------------------------------------------------------

/-- How a call can fail. -/
inductive Outage
  | threw
  | unreadable (status : Nat)
  | refused (status : Nat) (errors : List CfError)
  deriving DecidableEq, Repr

def Outage.answer : Outage → CfAnswer
  | .threw => .threw
  | .unreadable status => .answered status none
  | .refused status errors => .answered status (some { success := false, errors })

theorem Outage.call_answer (outage : Outage) (operation : String)
    : ∃ failure, call operation outage.answer = .error failure := by
  cases outage with
  | threw => exact ⟨_, rfl⟩
  | unreadable status => exact ⟨_, rfl⟩
  | refused status errors => exact ⟨.api operation status errors, by simp [Outage.answer, call]⟩

/-- What becomes of a deletion: it is made, or not, and the caller is told so, or not. -/
inductive Deletion
  | removed
  | removedUnanswered (outage : Outage)
  | kept (outage : Outage)
  deriving DecidableEq, Repr

def Deletion.answer : Deletion → CfAnswer
  | .removed => .answered 200 (some { success := true })
  | .removedUnanswered outage | .kept outage => outage.answer

/-- An account and how it answers: which pages carry the number of pages, and what fails. -/
structure TokenAccount where
  tokens : List AccountTokenSummary
  distinct : (tokens.map AccountTokenSummary.id).Nodup
  counted : Nat → Bool
  outage : Nat → Option Outage
  /-- The filter may fail, or leave any tokens out. -/
  filter : String → Except Outage (List AccountTokenSummary)
  filter_served : ∀ name served, filter name = .ok served → served ⊆ tokens
  deletion : String → Deletion

namespace TokenAccount

variable (account : TokenAccount)

def row (token : AccountTokenSummary) : TokenRow where
  id := some token.id
  name := some token.name

/-- A page with as many tokens as are left, up to 50. -/
def serve (number : Nat) : CfAnswer :=
  match account.outage number with
  | some outage => outage.answer
  | none =>
      .answered 200
        (some
          {
            success := true,
            result := some ((page account.tokens number perPage).map row),
            totalPages :=
              if account.counted number then
                some (((account.tokens.length + (perPage - 1)) / perPage : Nat) : Int)
              else none
          })

def filtered (name : String) : CfAnswer :=
  match account.filter name with
  | .error outage => outage.answer
  | .ok served => .answered 200 (some { success := true, result := some (served.map row) })

def notFound : Outage := .refused 404 []

/-- Only a token of the account can be deleted. -/
def deleted (tokenId : String) : CfAnswer :=
  if tokenId ∈ account.tokens.map AccountTokenSummary.id then (account.deletion tokenId).answer
  else notFound.answer

/-- The tokens after a deletion was asked for. -/
def afterDelete (tokenId : String) : List AccountTokenSummary :=
  match account.deletion tokenId with
  | .removed | .removedUnanswered _ => account.tokens.filter fun token => token.id ≠ tokenId
  | .kept _ => account.tokens

def list : Except CfFailure (List AccountTokenSummary) :=
  listAccountTokens account.serve

def find (name : String) : Except CfFailure (Option AccountTokenSummary) :=
  findTokenByName account.serve (account.filtered name) name

def revoke (name : String) : Revocation :=
  revokeTokenByName account.serve (account.filtered name) account.deleted name

/-- The tokens after a revocation. -/
def afterRevoke (name : String) : List AccountTokenSummary :=
  match (account.revoke name).asked with
  | none => account.tokens
  | some tokenId => account.afterDelete tokenId

/-- The census is complete or it fails, and what rests on it with it. -/
structure CompleteOrFails : Prop where
  listed : ∀ all, account.list = .ok all → all.Perm account.tokens
  absent : ∀ name, account.find name = .ok none → ∀ token ∈ account.tokens, token.name ≠ name
  unrevoked : ∀ name, (account.revoke name).answer = .ok false →
    ∀ token ∈ account.tokens, token.name ≠ name
  revoked : ∀ name, (account.revoke name).answer = .ok true →
    ∃ token ∈ account.tokens, token.name = name
      ∧ account.afterRevoke name = account.tokens.filter fun other => other.id ≠ token.id

/-- The census can see the last token, or a page on the way fails. -/
def WithinReach : Prop :=
  account.tokens.length ≤ pageCap * perPage
  ∨ ∃ number, 1 ≤ number ∧ number ≤ pageCap ∧ account.outage number ≠ none

-----------------------------------------------------------------------------------------
-- What the pages have
-----------------------------------------------------------------------------------------

variable {account : TokenAccount}

theorem filterMap_summary_map_row (tokens : List AccountTokenSummary)
    : (tokens.map row).filterMap TokenRow.summary = tokens := by
  induction tokens with
  | nil => rfl
  | cons token rest ih =>
      rw [List.map_cons, List.filterMap_cons]
      exact congrArg (List.cons token) ih

/-- The tokens of the pages before one, and then that page. -/
theorem take_append_page (number : Nat)
    : account.tokens.take (number * perPage) ++ page account.tokens (number + 1) perPage
      = account.tokens.take ((number + 1) * perPage) := by
  rw [page, Nat.add_sub_cancel, Nat.add_mul, Nat.one_mul, List.take_add]

/-- No token lies behind a page. -/
def Last (account : TokenAccount) (number : Nat) : Prop :=
  account.tokens.length ≤ number * perPage

theorem take_of_last {number : Nat} (last : Last account number)
    : account.tokens.take (number * perPage) = account.tokens :=
  List.take_of_length_le last

/-- A short page is the last one. -/
theorem last_of_short {number : Nat}
    (short : (page account.tokens (number + 1) perPage).length < perPage)
    : Last account (number + 1) := by
  simp only [page, Nat.add_sub_cancel, List.length_take, List.length_drop, perPage] at short
  simp only [Last, perPage]
  omega

/-- The number of pages is read as the number of the last one. -/
theorem last_of_pages {number : Nat}
    (pages : (((account.tokens.length + (perPage - 1)) / perPage : Nat) : Int) ≤ number)
    : Last account number := by
  simp only [perPage] at pages
  simp only [Last, perPage]
  omega

theorem call_serve {number : Nat} (clear : account.outage number = none)
    : call "tokens.list" (account.serve number) = .ok
        {
          success := true,
          result := some ((page account.tokens number perPage).map row),
          totalPages :=
            if account.counted number then
              some (((account.tokens.length + (perPage - 1)) / perPage : Nat) : Int)
            else none
        } := by
  simp only [serve, clear, call, isOk]
  rfl

/-- A page that is served: it is the last one, or the walk goes on behind it. -/
theorem listFrom_clear (guard number : Nat) (clear : account.outage (number + 1) = none)
    : Last account (number + 1)
        ∧ listFrom account.serve (guard + 1) (number + 1) (account.tokens.take (number * perPage))
          = .ok (account.tokens.take ((number + 1) * perPage))
      ∨ listFrom account.serve (guard + 1) (number + 1) (account.tokens.take (number * perPage))
        = listFrom account.serve guard (number + 1 + 1)
            (account.tokens.take ((number + 1) * perPage)) := by
  rw [listFrom, call_serve clear]
  simp only [Option.getD_some, filterMap_summary_map_row, take_append_page, List.length_map]
  split
  · rename_i total counted
    split
    · rename_i reached
      refine .inl ⟨last_of_pages ?_, rfl⟩
      obtain ⟨isTotal, -⟩ := Option.filter_eq_some_iff.mp counted
      split at isTotal
      · cases isTotal
        exact reached
      · exact nomatch isTotal
    · exact .inr rfl
  · split
    · rename_i short
      exact .inl ⟨last_of_short short, rfl⟩
    · exact .inr rfl

theorem listFrom_out {guard number : Nat} {outage : Outage} (out : List AccountTokenSummary)
    (down : account.outage number = some outage)
    : ∃ failure, listFrom account.serve (guard + 1) number out = .error failure := by
  obtain ⟨failure, failed⟩ := outage.call_answer "tokens.list"
  refine ⟨failure, ?_⟩
  simp only [listFrom, serve, down, failed]

/-- By induction on the pages that the cap leaves: what is returned is all there is, or as far as
the cap goes, and then no page on the way failed. -/
theorem listFrom_ok {guard number : Nat} {all : List AccountTokenSummary}
    (listed : listFrom account.serve guard (number + 1) (account.tokens.take (number * perPage))
      = .ok all)
    : all = account.tokens
      ∨ all = account.tokens.take ((number + guard) * perPage)
        ∧ ∀ i < guard, account.outage (number + 1 + i) = none := by
  induction guard generalizing number with
  | zero => exact .inr ⟨(Except.ok.inj listed).symm, fun i less => absurd less (Nat.not_lt_zero i)⟩
  | succ guard ih =>
      cases down : account.outage (number + 1) with
      | some outage =>
          obtain ⟨failure, failed⟩ := listFrom_out (account.tokens.take (number * perPage)) down
          exact nomatch failed.symm.trans listed
      | none =>
          rcases listFrom_clear guard number down with ⟨last, stops⟩ | onward
          · left
            rw [← Except.ok.inj (stops.symm.trans listed), take_of_last last]
          · rcases ih (onward.symm.trans listed) with whole | ⟨cut, clear⟩
            · exact .inl whole
            · refine .inr ⟨by rw [cut, Nat.add_assoc, Nat.add_comm 1 guard], fun i less => ?_⟩
              cases i with
              | zero => exact down
              | succ i =>
                  have served := clear i (Nat.lt_of_succ_lt_succ less)
                  rwa [Nat.add_assoc (number + 1), Nat.add_comm 1 i] at served

/-- Where no page fails, the walk has the tokens of the pages under the cap. -/
theorem listFrom_all_clear {guard number : Nat}
    (clear : ∀ i < guard, account.outage (number + 1 + i) = none)
    : listFrom account.serve guard (number + 1) (account.tokens.take (number * perPage))
      = .ok (account.tokens.take ((number + guard) * perPage)) := by
  induction guard generalizing number with
  | zero => rfl
  | succ guard ih =>
      rcases listFrom_clear guard number (clear 0 (Nat.succ_pos guard)) with ⟨last, stops⟩ | onward
      · have further : Last account (number + (guard + 1)) := by
          simp only [Last, perPage] at last ⊢
          omega
        rw [stops, take_of_last last, take_of_last further]
      · rw [onward, ih, Nat.add_assoc, Nat.add_comm 1 guard]
        intro i less
        have served := clear (i + 1) (Nat.succ_lt_succ less)
        rwa [Nat.add_comm i 1, ← Nat.add_assoc] at served

-----------------------------------------------------------------------------------------
-- What rests on the census
-----------------------------------------------------------------------------------------

/-- A census within reach has every token. -/
theorem list_ok_of_withinReach {all : List AccountTokenSummary} (reach : account.WithinReach)
    (listed : account.list = .ok all)
    : all = account.tokens := by
  have start : listFrom account.serve pageCap (0 + 1) (account.tokens.take (0 * perPage))
      = .ok all := listed
  rcases listFrom_ok start with whole | ⟨cut, clear⟩
  · exact whole
  · rcases reach with short | ⟨number, positive, capped, down⟩
    · rw [cut, Nat.zero_add, List.take_of_length_le short]
    · have served := clear (number - 1) (by omega)
      rw [show 0 + 1 + (number - 1) = number from by omega] at served
      exact absurd served down

/-- A census out of reach is cut without a word. -/
theorem list_ok_of_out_of_reach (beyond : ¬account.WithinReach)
    : account.list = .ok (account.tokens.take (pageCap * perPage)) := by
  have walk : listFrom account.serve pageCap (0 + 1) (account.tokens.take (0 * perPage))
      = .ok (account.tokens.take ((0 + pageCap) * perPage)) := by
    refine listFrom_all_clear fun i less => ?_
    by_contra down
    exact beyond (.inr ⟨0 + 1 + i, by omega, by omega, down⟩)
  rw [Nat.zero_add] at walk
  exact walk

theorem list_ok_subset {all : List AccountTokenSummary} (listed : account.list = .ok all)
    : all ⊆ account.tokens := by
  have start : listFrom account.serve pageCap (0 + 1) (account.tokens.take (0 * perPage))
      = .ok all := listed
  rcases listFrom_ok start with whole | ⟨cut, -⟩
  · rw [whole]
    exact List.Subset.refl _
  · rw [cut]
    exact List.take_subset _ _

/-- The filtered listing has a token of the name, or the census is asked. -/
theorem find_cases (account : TokenAccount) (name : String)
    : (∃ token ∈ account.tokens, token.name = name ∧ account.find name = .ok (some token))
      ∨ account.find name
        = account.list.map fun all : List AccountTokenSummary =>
            all.find? fun token => token.name = name := by
  cases preferred : account.filter name with
  | error outage =>
      obtain ⟨failure, failed⟩ := outage.call_answer "tokens.listByName"
      right
      simp only [find, findTokenByName, filtered, preferred, failed, list]
  | ok served =>
      have answered : call "tokens.listByName" (account.filtered name)
          = .ok { success := true, result := some (served.map row) } := by
        simp only [filtered, preferred, call, isOk]
        rfl
      cases looked : (served.map row).find? fun row : TokenRow => row.name = some name with
      | none =>
          right
          simp only [find, findTokenByName, answered, Option.getD_some, looked, list]
      | some hit =>
          obtain ⟨token, member, rfl⟩ := List.mem_map.mp (List.mem_of_find?_eq_some looked)
          have matched := List.find?_some looked
          have named : token.name = name := Option.some.inj (of_decide_eq_true matched)
          subst named
          left
          refine ⟨token, account.filter_served token.name served preferred member, rfl, ?_⟩
          simp only [find, findTokenByName, answered, Option.getD_some, looked, row]

/-- What is found is a token of the account, by its exact name. -/
theorem find_some {name : String} {hit : AccountTokenSummary}
    (found : account.find name = .ok (some hit))
    : hit ∈ account.tokens ∧ hit.name = name := by
  rcases account.find_cases name with ⟨token, member, named, first⟩ | census
  · cases Option.some.inj (Except.ok.inj (first.symm.trans found))
    exact ⟨member, named⟩
  · rw [census] at found
    cases listed : account.list with
    | error failure =>
        rw [listed] at found
        exact nomatch found
    | ok all =>
        rw [listed] at found
        have looked : (all.find? fun token => token.name = name) = some hit := Except.ok.inj found
        have matched := List.find?_some looked
        exact ⟨list_ok_subset listed (List.mem_of_find?_eq_some looked), of_decide_eq_true matched⟩

/-- Within reach, a name that is not found is no token's. -/
theorem find_none {name : String} (reach : account.WithinReach)
    (absent : account.find name = .ok none)
    : ∀ token ∈ account.tokens, token.name ≠ name := by
  rcases account.find_cases name with ⟨token, -, -, first⟩ | census
  · exact nomatch first.symm.trans absent
  · rw [census] at absent
    cases listed : account.list with
    | error failure =>
        rw [listed] at absent
        exact nomatch absent
    | ok all =>
        rw [listed] at absent
        have looked : (all.find? fun token => token.name = name) = none := Except.ok.inj absent
        rw [← list_ok_of_withinReach reach listed]
        intro token member named
        exact List.find?_eq_none.mp looked token member (decide_eq_true named)

/-- What a revocation answers goes by what is found. -/
theorem revoke_cases (account : TokenAccount) (name : String)
    : (∃ failure, account.find name = .error failure
        ∧ account.revoke name = { answer := .error failure, asked := none })
      ∨ (account.find name = .ok none
        ∧ account.revoke name = { answer := .ok false, asked := none })
      ∨ ∃ hit, account.find name = .ok (some hit)
        ∧ account.revoke name
          = {
              answer := (revokeToken account.deleted hit.id).map fun _ => true,
              asked := some hit.id
            } := by
  unfold revoke revokeTokenByName
  cases found : findTokenByName account.serve (account.filtered name) name with
  | error failure => exact .inl ⟨failure, found, rfl⟩
  | ok hit =>
      cases hit with
      | none => exact .inr (.inl ⟨found, rfl⟩)
      | some hit => exact .inr (.inr ⟨hit, found, rfl⟩)

theorem revoke_false {name : String} (answered : (account.revoke name).answer = .ok false)
    : account.find name = .ok none := by
  rcases account.revoke_cases name with ⟨failure, -, same⟩ | ⟨absent, -⟩ | ⟨hit, -, same⟩
  · rw [same] at answered
    exact nomatch answered
  · exact absent
  · rw [same] at answered
    cases made : revokeToken account.deleted hit.id with
    | error failure =>
        rw [made] at answered
        exact nomatch answered
    | ok done =>
        rw [made] at answered
        exact nomatch Except.ok.inj answered

/-- A token of the account whose deletion is answered with success is gone. -/
theorem afterDelete_of_revokeToken {hit : AccountTokenSummary} (member : hit ∈ account.tokens)
    (made : revokeToken account.deleted hit.id = .ok ())
    : account.afterDelete hit.id = account.tokens.filter fun token => token.id ≠ hit.id := by
  have carried : hit.id ∈ account.tokens.map AccountTokenSummary.id :=
    List.mem_map_of_mem member
  simp only [revokeToken, deleted, carried, if_true] at made
  cases became : account.deletion hit.id with
  | removed => simp only [afterDelete, became]
  | removedUnanswered outage => simp only [afterDelete, became]
  | kept outage =>
      obtain ⟨failure, failed⟩ := outage.call_answer "tokens.delete"
      rw [became, Deletion.answer, failed] at made
      exact nomatch made

/-- A revocation that says so has deleted a token of the name. -/
theorem revoke_true {name : String} (answered : (account.revoke name).answer = .ok true)
    : ∃ token ∈ account.tokens, token.name = name
      ∧ account.afterRevoke name = account.tokens.filter fun other => other.id ≠ token.id := by
  rcases account.revoke_cases name with ⟨failure, -, same⟩ | ⟨-, same⟩ | ⟨hit, found, same⟩
  · rw [same] at answered
    exact nomatch answered
  · rw [same] at answered
    exact nomatch Except.ok.inj answered
  · obtain ⟨member, named⟩ := find_some found
    refine ⟨hit, member, named, ?_⟩
    rw [same] at answered
    cases made : revokeToken account.deleted hit.id with
    | error failure =>
        rw [made] at answered
        exact nomatch answered
    | ok done =>
        simp only [afterRevoke, same]
        exact afterDelete_of_revokeToken member made

/-- The census is complete or it fails exactly for the accounts within its reach. -/
theorem completeOrFails_iff (account : TokenAccount)
    : account.CompleteOrFails ↔ account.WithinReach := by
  constructor
  · intro complete
    by_contra beyond
    have cut := complete.listed _ (list_ok_of_out_of_reach beyond)
    have sizes := cut.length_eq
    rw [List.length_take] at sizes
    exact beyond (.inl (by omega))
  · intro reach
    constructor
    · intro all listed
      rw [list_ok_of_withinReach reach listed]
    · intro name absent
      exact find_none reach absent
    · intro name answered
      exact find_none reach (revoke_false answered)
    · intro name answered
      exact revoke_true answered

def numbered (i : Nat) : String :=
  String.ofList (List.replicate i 't')

theorem numbered_injective : Function.Injective numbered := by
  intro i j same
  have lengths := congrArg (fun text : String => text.toList.length) same
  simpa [numbered] using lengths

/-- As many tokens as 40 pages have, and one more. -/
def crowded : TokenAccount where
  tokens := (List.range 2001).map fun i => { id := numbered i, name := numbered i }
  distinct := by
    rw [List.map_map]
    exact List.nodup_range.map numbered_injective
  counted := fun _ => true
  outage := fun _ => none
  filter := fun _ => .error .threw
  filter_served name served answered := by cases answered
  deletion := fun _ => .removed

/-- The last token is in no census. -/
theorem crowded_cut : ¬crowded.CompleteOrFails := by
  intro complete
  have size : crowded.tokens.length = 2001 := by simp [crowded]
  have beyond : ¬crowded.WithinReach := by
    intro h
    rcases h with short | ⟨number, -, -, down⟩
    · rw [size] at short
      exact absurd short (by decide)
    · exact down rfl
  have sizes := (complete.listed _ (list_ok_of_out_of_reach beyond)).length_eq
  rw [List.length_take, size] at sizes
  exact absurd sizes (by decide)

end TokenAccount

end ControlPlane.Cloudflare
