import ControlPlane.RunpodProxy.SweepTally

/-! What any run of sweeps and callbacks leaves: rows that are as they were or closed on evidence, no
request for a job that was closed already, and sweeps that account for what they examined.
-/

namespace ControlPlane.RunpodProxy

open ControlPlane.Library
open ControlPlane.Store

variable {config : CloserConfig} {start index : RunpodJobIndex} {state next final : JobClosers}
  {action : CloserAction}

-----------------------------------------------------------------------------------------
-- A delivery for a closed row
-----------------------------------------------------------------------------------------

/-- The row under a token is closed. -/
def ClosedUnder (index : RunpodJobIndex) (tokenSha256 : String) : Prop :=
  ∃ row ∈ index.jobs.rows, row.webhookTokenSha256 = some tokenSha256 ∧ row.terminalAt ≠ none

/-- A callback finds the one row that carries its token. -/
theorem found_of_closedUnder {tokenSha256 : String} (isClosed : ClosedUnder index tokenSha256)
    : ∃ ref, index.findRunpodProxyJobByWebhookToken tokenSha256 = some ref
        ∧ ref.terminalAt ≠ none := by
  obtain ⟨row, member, carries, ended⟩ := isClosed
  cases found : index.findRunpodProxyJobByWebhookToken tokenSha256 with
  | none =>
      have none_ := List.find?_eq_none.mp (Option.map_eq_none_iff.mp found) row member
      exact absurd (decide_eq_true carries) none_
  | some ref =>
      obtain ⟨other, isOther, otherCarries, -, sameEnd⟩ := row_of_found found
      have same : row = other :=
        index.webhookTokens row member other (Keyed.get?_mem isOther) tokenSha256 carries
          otherCarries
      exact ⟨ref, rfl, by rw [← sameEnd, ← same]; exact ended⟩

/-- A closed row stays closed under every write. -/
theorem ClosedUnder.writes {tokenSha256 : String} (isClosed : ClosedUnder index tokenSha256)
    (closer : Closer) (input : CloserInput)
    : ClosedUnder (closer.writes index input) tokenSha256 := by
  rcases closer.writes_cases index input with same | ⟨closed, stamp, _, -, -, -, written⟩
  · rw [same]
    exact isClosed
  · obtain ⟨row, member, carries, ended⟩ := isClosed
    have kept := (closed.statement stamp).get?_apply_of_not (Keyed.get?_of_mem member)
      fun matched => ended (of_decide_eq_true matched.2)
    rw [written]
    exact ⟨row, Keyed.get?_mem kept, carries, ended⟩

/-- A delivery that will not ask: it is about to find a closed row, or it is over. -/
def DeliveryStage.Quiet (config : CloserConfig) (index : RunpodJobIndex) : DeliveryStage → Prop
  | .lookup token => ClosedUnder index (config.sha256Hex token)
  | .answered _ | .rejected => True
  | _ => False

/-- A quiet delivery asks nothing and stays quiet. -/
theorem DeliveryStage.quiet_next {stage after : DeliveryStage} {input : CloserInput}
    (quiet : stage.Quiet config index) (moved : stage.next config index input = some after)
    (id : Nat)
    : after.Quiet config index ∧ (Closer.delivery stage).asks id input = [] := by
  cases stage with
  | lookup token =>
      cases input with
      | read outcome =>
          cases outcome with
          | error thrown => cases moved; exact ⟨trivial, rfl⟩
          | ok =>
              obtain ⟨ref, found, ended⟩ := found_of_closedUnder quiet
              cases moved
              rw [found, afterLookup, if_pos ended]
              exact ⟨trivial, rfl⟩
      | dies => cases moved; exact ⟨trivial, rfl⟩
      | _ => cases moved
  | answered response => cases moved
  | rejected => cases moved
  | _ => exact quiet.elim

/-- A delivery has made no request and will make none. -/
structure JobClosers.QuietAt (config : CloserConfig) (id : Nat) (state : JobClosers) : Prop where
  stage : ∃ stage, state.closers id = some (.delivery stage) ∧ stage.Quiet config state.index
  unasked : ∀ request ∈ state.asked, request.closer ≠ id

theorem Closer.closer_of_asks {id : Nat} {input : CloserInput} {closer : Closer}
    {request : StatusRequest} (isAsked : request ∈ closer.asks id input)
    : request.closer = id := by
  cases closer with
  | sweep stage =>
      cases stage with
      | probe now result job rest =>
          obtain ⟨answer, -, rfl⟩ := List.mem_map.mp isAsked
          rfl
      | _ => exact absurd isAsked List.not_mem_nil
  | delivery stage =>
      cases stage with
      | fetch jobId endpointId =>
          obtain ⟨answer, -, rfl⟩ := List.mem_map.mp isAsked
          rfl
      | _ => exact absurd isAsked List.not_mem_nil

theorem DeliveryStage.Quiet.writes {stage : DeliveryStage} (quiet : stage.Quiet config index)
    (closer : Closer) (input : CloserInput)
    : stage.Quiet config (closer.writes index input) := by
  cases stage with
  | lookup token => exact ClosedUnder.writes quiet closer input
  | _ => exact quiet

/-- A quiet delivery stays so, whatever the others do. -/
theorem JobClosers.quietAt_step {id : Nat} (quietAt : state.QuietAt config id)
    (taken : state.step config action = some next)
    : next.QuietAt config id := by
  obtain ⟨⟨stage, holds, quiet⟩, unasked⟩ := quietAt
  cases step_cases taken with
  | sweep other free =>
      have apart : id ≠ other := fun same => nomatch (same ▸ free).symm.trans holds
      exact ⟨⟨stage, (Function.update_of_ne apart _ _).trans holds, quiet⟩, unasked⟩
  | deliver other token free =>
      have apart : id ≠ other := fun same => nomatch (same ▸ free).symm.trans holds
      exact ⟨⟨stage, (Function.update_of_ne apart _ _).trans holds, quiet⟩, unasked⟩
  | input other input closer after here moved =>
      by_cases same : id = other
      · subst same
        cases Option.some.inj (here.symm.trans holds)
        obtain ⟨stage', onward, rfl⟩ := Option.map_eq_some_iff.mp moved
        obtain ⟨stillQuiet, silent⟩ := DeliveryStage.quiet_next quiet onward id
        refine ⟨⟨stage', Function.update_self .., stillQuiet.writes _ input⟩, ?_⟩
        rw [silent, List.append_nil]
        exact unasked
      · refine ⟨⟨stage, (Function.update_of_ne same _ _).trans holds, quiet.writes _ input⟩, ?_⟩
        intro request isAsked
        rcases List.mem_append.mp isAsked with earlier | now
        · exact unasked request earlier
        · rw [Closer.closer_of_asks now]
          exact fun isId => same isId.symm

/-- Whoever has asked is at work, and past a lookup. -/
def JobClosers.AskersKnown (state : JobClosers) : Prop :=
  ∀ request ∈ state.asked, ∃ closer, state.closers request.closer = some closer
    ∧ ∀ token, closer ≠ .delivery (.lookup token)

/-- A delivery that is past its lookup. -/
def DeliveryStage.Past : DeliveryStage → Prop
  | .lookup _ => False
  | _ => True

theorem past_afterLookup (found : Option ProxyJobRef) : (afterLookup found).Past := by
  cases found with
  | none => trivial
  | some ref =>
      simp only [afterLookup]
      split
      · trivial
      · split <;> trivial

theorem past_afterStatus (jobId : String) (answer : Except Thrown StatusAnswer)
    : (afterStatus config jobId answer).Past := by
  cases answer with
  | error thrown => trivial
  | ok resp =>
      simp only [afterStatus]
      split
      · trivial
      · split
        · trivial
        · split <;> trivial

/-- Every step of a delivery takes it past its lookup, by cases on its stage. -/
theorem DeliveryStage.past_next {stage after : DeliveryStage} {input : CloserInput}
    (moved : stage.next config index input = some after)
    : after.Past := by
  cases stage with
  | lookup token =>
      cases input with
      | read outcome =>
          cases outcome with
          | error thrown => cases moved; trivial
          | ok => cases moved; exact past_afterLookup _
      | dies => cases moved; trivial
      | _ => cases moved
  | credential jobId endpointId =>
      cases input with
      | credential answer =>
          cases moved
          cases answer with
          | error thrown => trivial
          | ok key =>
              simp only [deliveryCredential]
              split <;> trivial
      | dies => cases moved; trivial
      | _ => cases moved
  | fetch jobId endpointId =>
      cases input with
      | fetch answer => cases moved; exact past_afterStatus jobId answer
      | dies => cases moved; trivial
      | _ => cases moved
  | clock facts =>
      cases input with
      | clock now => cases moved; trivial
      | dies => cases moved; trivial
      | _ => cases moved
  | close closed =>
      cases input with
      | close stamp fate => cases fate <;> cases moved <;> trivial
      | dies => cases moved; trivial
      | _ => cases moved
  | answered response => cases moved
  | rejected => cases moved

/-- Nobody goes back to a lookup. -/
theorem Closer.next_ne_lookup {closer after : Closer} {input : CloserInput}
    (moved : closer.next config index input = some after) (token : String)
    : after ≠ .delivery (.lookup token) := by
  intro isLookup
  subst isLookup
  cases closer with
  | sweep stage =>
      obtain ⟨after, -, same⟩ := Option.map_eq_some_iff.mp moved
      exact nomatch same
  | delivery stage =>
      obtain ⟨after, onward, same⟩ := Option.map_eq_some_iff.mp moved
      cases same
      exact DeliveryStage.past_next onward

theorem JobClosers.askersKnown_step (known : state.AskersKnown)
    (taken : state.step config action = some next)
    : next.AskersKnown := by
  cases step_cases taken with
  | sweep id free =>
      intro request isAsked
      obtain ⟨closer, holds, past⟩ := known request isAsked
      have apart : request.closer ≠ id := fun same => nomatch (same ▸ free).symm.trans holds
      exact ⟨closer, (Function.update_of_ne apart _ _).trans holds, past⟩
  | deliver id token free =>
      intro request isAsked
      obtain ⟨closer, holds, past⟩ := known request isAsked
      have apart : request.closer ≠ id := fun same => nomatch (same ▸ free).symm.trans holds
      exact ⟨closer, (Function.update_of_ne apart _ _).trans holds, past⟩
  | input id input closer after here moved =>
      intro request isAsked
      by_cases same : request.closer = id
      · refine ⟨after, ?_, Closer.next_ne_lookup moved⟩
        rw [same]
        exact Function.update_self ..
      · rcases List.mem_append.mp isAsked with earlier | now
        · obtain ⟨other, holds, past⟩ := known request earlier
          exact ⟨other, (Function.update_of_ne same _ _).trans holds, past⟩
        · exact absurd (Closer.closer_of_asks now) same

-----------------------------------------------------------------------------------------
-- Every run
-----------------------------------------------------------------------------------------

/-- What a run of sweeps and callbacks on an index leaves. -/
structure ClosedOnEvidence (config : CloserConfig) (start : RunpodJobIndex)
    (run : List CloserAction) (final : JobClosers)
    : Prop where
  rows :
    ∀ jobId, final.index.jobs.get? jobId = start.jobs.get? jobId
      ∨ ∃ row closed stamp, start.jobs.get? jobId = some row ∧ row.terminalAt = none
          ∧ Evidence config final.asked row closed
          ∧ final.index.jobs.get? jobId = some ((closed.statement stamp).set row)
  duplicates :
    ∀ sofar rest middle id token, run = sofar ++ rest →
      exec (JobClosers.step config) (.idle start) sofar = some middle →
      middle.closers id = some (.delivery (.lookup token)) →
      ClosedUnder middle.index (config.sha256Hex token) →
      ∀ request ∈ final.asked, request.closer ≠ id
  within :
    ∀ id result, final.closers id = some (.sweep (.done result)) →
      result.closed + result.unknown + result.stillRunning + result.errors ≤ result.examined
  alone :
    ∀ sofar during id result, run = sofar ++ .sweep id :: during →
      (∀ action ∈ during, action.LeavesTo id) →
      final.closers id = some (.sweep (.done result)) →
      result.closed + result.unknown + result.stillRunning + result.errors = result.examined

/-- Every run of sweeps and callbacks closes rows on evidence, whatever RunPod, the clocks and the
database answer, and in whatever order.
-/
theorem closers_closedOnEvidence (config : CloserConfig) (start : RunpodJobIndex)
    (run : List CloserAction) (final : JobClosers)
    (reached : exec (JobClosers.step config) (.idle start) run = some final)
    : ClosedOnEvidence config start run final where
  rows := (JobClosers.grounded_of_exec reached).rows
  duplicates := by
    intro sofar rest middle id token cut arrived looks isClosed
    rw [cut] at reached
    obtain ⟨middle', arrived', onward⟩ := exec_append.mp reached
    cases arrived'.symm.trans arrived
    have known : middle.AskersKnown :=
      exec_preserves (fun _ _ _ => JobClosers.askersKnown_step)
        (fun request isAsked => absurd isAsked List.not_mem_nil) arrived
    have quietAt : middle.QuietAt config id := by
      refine ⟨⟨_, looks, isClosed⟩, fun request isAsked same => ?_⟩
      obtain ⟨closer, holds, past⟩ := known request isAsked
      rw [same, looks] at holds
      exact past token (Option.some.inj holds).symm
    exact (exec_preserves (fun _ _ _ => JobClosers.quietAt_step) quietAt onward).unasked
  within := by
    intro id result ended
    have nobody : (JobClosers.idle start).Tallied := by
      intro other stage holds
      exact nomatch holds
    exact exec_preserves (fun _ _ _ => JobClosers.tallied_step) nobody reached id _ ended
  alone := by
    intro sofar during id result cut leaves ended
    rw [cut] at reached
    obtain ⟨middle, -, onward⟩ := exec_append.mp reached
    obtain ⟨come, taken, later⟩ := exec_cons.mp onward
    obtain ⟨-, isCome⟩ := JobClosers.comes_eq_some taken
    have exactAt : come.ExactAt id := by
      rw [isCome]
      exact ⟨.credential, Function.update_self .., trivial⟩
    have allLeave
        : Throughout (JobClosers.step config) (fun _ action => action.LeavesTo id) come during :=
      throughout_of_mem (fun action member _ => leaves action member) come
    obtain ⟨stage, holds, exact_⟩ :=
      exec_invariant (fun _ _ _ => JobClosers.exactAt_step) exactAt allLeave later
    rw [ended] at holds
    cases Option.some.inj holds
    exact exact_

-----------------------------------------------------------------------------------------
-- A job that is called back for twice, and swept for
-----------------------------------------------------------------------------------------

/-- A job of the proxy that was submitted at the start of time. -/
def openJob : RunpodJobIndex where
  jobs :=
    Keyed.singleton
      { jobId := "job_1"
        tenantId := "ten_1"
        tenantSlug := "film"
        moduleName := none
        outcome := some "submitted"
        submittedAt := some 0
        terminalAt := none
        harvestedAt := 0
        endpointId := some "wan-2-6-i2v"
        source := some .proxy
        webhookTokenSha256 := some "ab" }
  webhookTokens := by
    intro job member other member' token _ _
    rw [List.mem_singleton.mp member, List.mem_singleton.mp member']

/-- Two callbacks for a completed job, and a sweep that finds nothing open. -/
def calledBackTwice : List CloserAction :=
  [.deliver 1 "ab", .input 1 (.read (.ok ())), .input 1 (.credential (.ok "key")),
    .input 1 (.fetch (.ok ⟨200, .ok (.object [("status", .str "COMPLETED")])⟩)),
    .input 1 (.clock 400000), .input 1 (.close 400 .runs), .deliver 2 "ab",
    .input 2 (.read (.ok ())), .sweep 3, .input 3 (.credential (.ok "key")),
    .input 3 (.clock 900000), .input 3 (.read (.ok ())), .input 3 (.read (.ok ()))]

/-- The first callback closes the job, the second asks nothing, and the sweep examines nothing. -/
theorem calledBackTwice_closedOnEvidence
    : ∃ final,
        exec (JobClosers.step ⟨id, fun _ => none⟩) (.idle openJob) calledBackTwice = some final
        ∧ (final.index.jobs.get? "job_1").bind RunpodJob.terminalAt = some 400000
        ∧ ClosedOnEvidence ⟨id, fun _ => none⟩ openJob calledBackTwice final := by
  obtain ⟨final, reached, ended⟩ :=
    Option.map_eq_some_iff.mp
      (show (exec (JobClosers.step ⟨id, fun _ => none⟩) (.idle openJob) calledBackTwice).map
          (fun final => (final.index.jobs.get? "job_1").bind RunpodJob.terminalAt)
        = some (some 400000) by decide +kernel)
  exact ⟨final, reached, ended, closers_closedOnEvidence _ _ _ final reached⟩

end ControlPlane.RunpodProxy
