import ControlPlane.RunpodProxy.Closers
import ControlPlane.StudioBindings.Projections

/-! A proxied job is closed on evidence: on what RunPod answered to the plane about this job at its
endpoint, or by a sweep that was told the job is gone once nothing can answer for it any more.
-/

namespace ControlPlane.RunpodProxy

open ControlPlane.Library
open ControlPlane.Store
open ControlPlane.StudioBindings

variable {config : CloserConfig} {start index : RunpodJobIndex} {asked more : List StatusRequest}

-----------------------------------------------------------------------------------------
-- Evidence
-----------------------------------------------------------------------------------------

/-- A request about the job of a row, to the endpoint of the row. -/
def StatusRequest.About (request : StatusRequest) (row : RunpodJob) : Prop :=
  request.jobId = row.jobId ∧ row.endpointId = some request.endpointId

/-- A 2xx answer about the job of a row says these facts. -/
def ReadFor (config : CloserConfig) (asked : List StatusRequest) (row : RunpodJob)
    (facts : TerminalFacts)
    : Prop :=
  ∃ request ∈ asked, ∃ answer status,
    request.About row
    ∧ request.answer = some (.ok answer) ∧ answer.ok = true ∧ answer.body = .ok status
    ∧ terminalFactsFromStatus config row.jobId status = some facts

/-- A sweep was told that the job of a row is gone, past its retention on the clock of the sweep. -/
def GoneFor (asked : List StatusRequest) (row : RunpodJob) (now : Int) : Prop :=
  ∃ request ∈ asked, ∃ answer submittedAt,
    request.About row
    ∧ request.sweptAt = some now
    ∧ request.answer = some (.ok answer) ∧ answer.status = 404
    ∧ row.submittedAt = some submittedAt ∧ OBSERVED_RESULT_RETENTION_MS < now - submittedAt

/-- The terminal writes that there is evidence for. -/
inductive Evidence (config : CloserConfig) (asked : List StatusRequest) (row : RunpodJob)
    : ProxyJobClose → Prop
  | read (facts : TerminalFacts) (terminalAt : Int) (isRead : ReadFor config asked row facts)
    : Evidence config asked row (closeWith facts terminalAt)
  | gone (now : Int) (isGone : GoneFor asked row now)
    : Evidence config asked row (closeUnknown row.jobId now)

/-- A row is as it was, or it was open and has been closed on evidence. -/
def TrueTo (config : CloserConfig) (start : RunpodJobIndex) (asked : List StatusRequest)
    (index : RunpodJobIndex)
    : Prop :=
  ∀ jobId, index.jobs.get? jobId = start.jobs.get? jobId
    ∨ ∃ row closed stamp, start.jobs.get? jobId = some row ∧ row.terminalAt = none
        ∧ Evidence config asked row closed
        ∧ index.jobs.get? jobId = some ((closed.statement stamp).set row)

/-- Evidence is not lost with further requests. -/
theorem Evidence.append {row : RunpodJob} {closed : ProxyJobClose}
    (evidence : Evidence config asked row closed) (more : List StatusRequest)
    : Evidence config (asked ++ more) row closed := by
  cases evidence with
  | read facts terminalAt isRead =>
      obtain ⟨request, member, found⟩ := isRead
      exact .read facts terminalAt ⟨request, List.mem_append_left _ member, found⟩
  | gone now isGone =>
      obtain ⟨request, member, found⟩ := isGone
      exact .gone now ⟨request, List.mem_append_left _ member, found⟩

theorem TrueTo.append (isTrue : TrueTo config start asked index) (more : List StatusRequest)
    : TrueTo config start (asked ++ more) index := by
  intro jobId
  rcases isTrue jobId with same | ⟨row, closed, stamp, found, isOpen, evidence, became⟩
  · exact .inl same
  · exact .inr ⟨row, closed, stamp, found, isOpen, evidence.append more, became⟩

/-- A close leaves a row as it is, or it is about that row and the row was open. -/
theorem get?_close_cases (index : RunpodJobIndex) (stamp : Nat) (closed : ProxyJobClose)
    (jobId : String)
    : (index.closeRunpodProxyJob stamp closed).1.jobs.get? jobId = index.jobs.get? jobId
      ∨ ∃ row, index.jobs.get? jobId = some row ∧ jobId = closed.jobId ∧ row.terminalAt = none
          ∧ (index.closeRunpodProxyJob stamp closed).1.jobs.get? jobId
            = some ((closed.statement stamp).set row) := by
  cases found : index.jobs.get? jobId with
  | none =>
      left
      change ((closed.statement stamp).apply index.jobs).get? jobId = none
      rw [Update.get?_apply, found, Option.map_none]
  | some row =>
      by_cases met : jobId = closed.jobId ∧ row.terminalAt = none
      · right
        obtain ⟨isTarget, isOpen⟩ := met
        subst isTarget
        refine ⟨row, rfl, rfl, isOpen, ?_⟩
        exact Update.get?_apply_of_match (closed.statement stamp) found (decide_eq_true isOpen)
      · left
        refine Update.get?_apply_of_not (closed.statement stamp) found fun matched => met ?_
        exact ⟨matched.1, of_decide_eq_true matched.2⟩

/-- What is written with evidence keeps the rows true. -/
theorem TrueTo.close (isTrue : TrueTo config start asked index) {closed : ProxyJobClose}
    (backed
      : ∃ row, start.jobs.get? closed.jobId = some row ∧ Evidence config asked row closed)
    (stamp : Nat)
    : TrueTo config start asked (index.closeRunpodProxyJob stamp closed).1 := by
  intro jobId
  rcases get?_close_cases index stamp closed jobId with kept | ⟨row, found, isTarget, isOpen, became⟩
  · rw [kept]
    exact isTrue jobId
  · rcases isTrue jobId with same | ⟨old, earlier, stamp', _, _, _, ended⟩
    · obtain ⟨row', found', evidence⟩ := backed
      have isRow : row' = row := by
        rw [← isTarget, ← same, found] at found'
        exact (Option.some.inj found').symm
      subst isRow
      exact .inr ⟨row', closed, stamp, same ▸ found, isOpen, evidence, became⟩
    · -- a row that has been closed is not open
      rw [ended] at found
      cases Option.some.inj found
      exact nomatch isOpen

-----------------------------------------------------------------------------------------
-- What a closer knows
-----------------------------------------------------------------------------------------

/-- A job that was listed is a row, with its endpoint and the time it was submitted at. -/
def Lists (start : RunpodJobIndex) (listed : OpenProxyJob) : Prop :=
  ∃ row, start.jobs.get? listed.jobId = some row
    ∧ row.endpointId = some listed.endpointId ∧ row.submittedAt = listed.submittedAt

/-- A job that was found is a row with this endpoint. -/
def Refers (start : RunpodJobIndex) (jobId endpointId : String) : Prop :=
  ∃ row, start.jobs.get? jobId = some row ∧ row.endpointId = some endpointId

/-- There is evidence for a write. -/
def Backed (config : CloserConfig) (start : RunpodJobIndex) (asked : List StatusRequest)
    (closed : ProxyJobClose)
    : Prop :=
  ∃ row, start.jobs.get? closed.jobId = some row ∧ Evidence config asked row closed

/-- What a sweep is about to ask is about a row, and what it is about to write has evidence. -/
def SweepStage.Grounded (config : CloserConfig) (start : RunpodJobIndex)
    (asked : List StatusRequest)
    : SweepStage → Prop
  | .probe _ _ job rest => ∀ listed ∈ job :: rest, Lists start listed
  | .close _ _ closed _ rest =>
      Backed config start asked closed ∧ ∀ listed ∈ rest, Lists start listed
  | _ => True

/-- What a delivery is about to ask is about a row, and what it is about to write has evidence. -/
def DeliveryStage.Grounded (config : CloserConfig) (start : RunpodJobIndex)
    (asked : List StatusRequest)
    : DeliveryStage → Prop
  | .credential jobId endpointId | .fetch jobId endpointId => Refers start jobId endpointId
  | .clock facts =>
      ∃ row, start.jobs.get? facts.jobId = some row ∧ ReadFor config asked row facts
  | .close closed => Backed config start asked closed
  | _ => True

def Closer.Grounded (config : CloserConfig) (start : RunpodJobIndex) (asked : List StatusRequest)
    : Closer → Prop
  | .sweep stage => stage.Grounded config start asked
  | .delivery stage => stage.Grounded config start asked

theorem Backed.append {closed : ProxyJobClose} (backed : Backed config start asked closed)
    (more : List StatusRequest)
    : Backed config start (asked ++ more) closed := by
  obtain ⟨row, found, evidence⟩ := backed
  exact ⟨row, found, evidence.append more⟩

/-- What a closer knows it still knows after further requests. -/
theorem Closer.Grounded.append {closer : Closer} (grounded : closer.Grounded config start asked)
    (more : List StatusRequest)
    : closer.Grounded config start (asked ++ more) := by
  cases closer with
  | sweep stage =>
      cases stage with
      | close now result closed isUnknown rest =>
          obtain ⟨backed, listed⟩ := grounded
          exact ⟨backed.append more, listed⟩
      | _ => exact grounded
  | delivery stage =>
      cases stage with
      | clock facts =>
          obtain ⟨row, found, request, member, read⟩ := grounded
          exact ⟨row, found, request, List.mem_append_left _ member, read⟩
      | close closed => exact Backed.append grounded more
      | _ => exact grounded

/-- What the rows keep of a table they are true to. -/
theorem TrueTo.kept (isTrue : TrueTo config start asked index) {jobId : String} {row : RunpodJob}
    (found : index.jobs.get? jobId = some row)
    : ∃ old, start.jobs.get? jobId = some old
        ∧ row.endpointId = old.endpointId ∧ row.submittedAt = old.submittedAt
        ∧ row.webhookTokenSha256 = old.webhookTokenSha256 := by
  rcases isTrue jobId with same | ⟨old, closed, stamp, earlier, _, _, became⟩
  · exact ⟨row, same ▸ found, rfl, rfl, rfl⟩
  · rw [found] at became
    cases Option.some.inj became
    exact ⟨old, earlier, rfl, rfl, rfl⟩

/-- The facts of a status are about the job they are derived for. -/
theorem jobId_of_facts {jobId : String} {status : Json} {facts : TerminalFacts}
    (derived : terminalFactsFromStatus config jobId status = some facts)
    : facts.jobId = jobId := by
  obtain ⟨outcome, -, rfl⟩ := Option.map_eq_some_iff.mp derived
  rfl

/-- A job that is listed is an open row of the index. -/
theorem row_of_listed {before : Int} {limit : Nat} {listed : OpenProxyJob}
    (isListed : listed ∈ index.listOpenRunpodProxyJobs before limit)
    : ∃ row, index.jobs.get? listed.jobId = some row ∧ row.terminalAt = none
        ∧ row.endpointId = some listed.endpointId ∧ row.submittedAt = listed.submittedAt := by
  obtain ⟨row, taken, rfl⟩ := List.mem_map.mp isListed
  have sorted := List.mem_of_mem_take taken
  obtain ⟨member, isOpen⟩ := List.mem_filter.mp (List.mem_mergeSort.mp sorted)
  obtain ⟨open_, _, hasEndpoint, _⟩ := of_decide_eq_true isOpen
  obtain ⟨endpointId, isEndpoint⟩ := Option.ne_none_iff_exists'.mp hasEndpoint
  exact ⟨row, Keyed.get?_of_mem member, open_, by rw [isEndpoint]; rfl, rfl⟩

-----------------------------------------------------------------------------------------
-- One step of a closer
-----------------------------------------------------------------------------------------

theorem grounded_nextJob {rest : List OpenProxyJob} (listed : ∀ job ∈ rest, Lists start job)
    (now : Int) (result : JobSweepResult)
    : (nextJob now result rest).Grounded config start asked := by
  cases rest with
  | nil => trivial
  | cons job rest => exact listed

/-- A row that was listed is the row that an answer about it is about. -/
theorem about_of_lists {listed : OpenProxyJob} {row : RunpodJob} {request : StatusRequest}
    (found : start.jobs.get? listed.jobId = some row)
    (endpoint : row.endpointId = some listed.endpointId)
    (isJob : request.jobId = listed.jobId) (isEndpoint : request.endpointId = listed.endpointId)
    : request.About row :=
  ⟨isJob.trans (Keyed.get?_key found).symm, by rw [endpoint, isEndpoint]⟩

/-- What a sweep makes of an answer is grounded on it. -/
theorem grounded_afterProbe {id : Nat} {now : Int} {result : JobSweepResult} {job : OpenProxyJob}
    {rest : List OpenProxyJob} (listed : ∀ other ∈ job :: rest, Lists start other)
    (answer : Except Thrown StatusAnswer)
    : (afterProbe config now result job rest (probeJob config job answer)).Grounded config start
        (asked ++ (Closer.sweep (.probe now result job rest)).asks id (.fetch answer)) := by
  obtain ⟨here, later⟩ := List.forall_mem_cons.mp listed
  obtain ⟨row, found, endpoint, submitted⟩ := here
  have keyed : row.jobId = job.jobId := Keyed.get?_key found
  have isAsked : ∀ {asks : List StatusRequest} {request}, request ∈ asks → request ∈ asked ++ asks :=
    fun member => List.mem_append_right _ member
  cases answer with
  | error thrown => exact grounded_nextJob later now _
  | ok resp =>
      simp only [probeJob]
      split
      · next absent =>
          -- the job is gone: the age of the row decides
          simp only [afterProbe]
          split
          · next past =>
              obtain ⟨submittedAt, isSubmitted, isPast⟩ := (Option.any_eq_true _ _).mp past
              refine ⟨⟨row, found, ?_⟩, later⟩
              rw [← keyed]
              exact .gone now
                ⟨_, isAsked (List.mem_singleton_self _), resp, submittedAt,
                  about_of_lists found endpoint rfl rfl, rfl, rfl, absent,
                  submitted.trans isSubmitted, of_decide_eq_true isPast⟩
          · exact grounded_nextJob later now _
      · split
        · exact grounded_nextJob later now _
        · next accepted =>
            split
            · exact grounded_nextJob later now _
            · next body isBody =>
                split
                · simp only [afterProbe]
                  split
                  · next facts derived =>
                      have aboutFacts : facts.jobId = job.jobId := jobId_of_facts derived
                      refine ⟨⟨row, ?_, ?_⟩, later⟩
                      · change start.jobs.get? facts.jobId = some row
                        rw [aboutFacts, found]
                      · exact .read facts now
                          ⟨_, isAsked (List.mem_singleton_self _), resp, body,
                            about_of_lists found endpoint rfl rfl, rfl, by simpa using accepted,
                            isBody, keyed ▸ derived⟩
                  · trivial
                · exact grounded_nextJob later now _

/-- A sweep stays grounded, by cases on its stage. -/
theorem SweepStage.grounded_next {stage after : SweepStage} {id : Nat} {input : CloserInput}
    (isTrue : TrueTo config start asked index) (grounded : stage.Grounded config start asked)
    (moved : stage.next config index input = some after)
    : after.Grounded config start (asked ++ (Closer.sweep stage).asks id input) := by
  cases stage with
  | credential =>
      cases input with
      | credential answer =>
          cases moved
          cases answer with
          | error thrown => trivial
          | ok key =>
              simp only [sweepCredential]
              split <;> trivial
      | dies => cases moved; trivial
      | _ => exact nomatch moved
  | clock =>
      cases input with
      | clock now => cases moved; trivial
      | dies => cases moved; trivial
      | _ => exact nomatch moved
  | count now =>
      cases input with
      | read outcome => cases outcome <;> cases moved <;> trivial
      | dies => cases moved; trivial
      | _ => exact nomatch moved
  | list now eligible =>
      cases input with
      | read outcome =>
          cases outcome with
          | error thrown => cases moved; trivial
          | ok =>
              cases moved
              refine grounded_nextJob (fun job isListed => ?_) now _
              obtain ⟨row, found, -, endpoint, submitted⟩ := row_of_listed isListed
              obtain ⟨old, earlier, sameEndpoint, sameTime, -⟩ := isTrue.kept found
              exact ⟨old, earlier, sameEndpoint ▸ endpoint, sameTime ▸ submitted⟩
      | dies => cases moved; trivial
      | _ => exact nomatch moved
  | probe now result job rest =>
      cases input with
      | fetch answer =>
          cases moved
          exact grounded_afterProbe grounded answer
      | dies => cases moved; trivial
      | _ => exact nomatch moved
  | close now result closed isUnknown rest =>
      cases input with
      | close stamp fate =>
          cases fate with
          | runs =>
              cases moved
              exact grounded_nextJob grounded.2 now _
          | fails => cases moved; trivial
          | unheard => cases moved; trivial
      | dies => cases moved; trivial
      | _ => exact nomatch moved
  | done result => exact nomatch moved
  | rejected => exact nomatch moved

/-- A row that a callback finds is a row of the index, by its token. -/
theorem row_of_found {tokenSha256 : String} {ref : ProxyJobRef}
    (found : index.findRunpodProxyJobByWebhookToken tokenSha256 = some ref)
    : ∃ row, index.jobs.get? ref.jobId = some row ∧ row.webhookTokenSha256 = some tokenSha256
        ∧ row.endpointId = ref.endpointId ∧ row.terminalAt = ref.terminalAt := by
  obtain ⟨row, isFound, rfl⟩ := Option.map_eq_some_iff.mp found
  have carries := List.find?_some isFound
  exact ⟨row, Keyed.get?_of_mem (List.mem_of_find?_eq_some isFound), of_decide_eq_true carries,
    rfl, rfl⟩

/-- A delivery that goes on refers to a row. -/
theorem grounded_afterLookup (isTrue : TrueTo config start asked index) {tokenSha256 : String}
    : (afterLookup (index.findRunpodProxyJobByWebhookToken tokenSha256)).Grounded config start
        more := by
  cases found : index.findRunpodProxyJobByWebhookToken tokenSha256 with
  | none => trivial
  | some ref =>
      simp only [afterLookup]
      split
      · trivial
      · split
        · trivial
        · next endpointId filled =>
            obtain ⟨row, isRow, -, endpoint, -⟩ := row_of_found found
            obtain ⟨old, earlier, sameEndpoint, -⟩ := isTrue.kept isRow
            refine ⟨old, earlier, ?_⟩
            rw [← sameEndpoint, endpoint]
            exact (truthy_eq_some.mp filled).1

/-- What a delivery makes of an answer is grounded on it. -/
theorem grounded_afterStatus {id : Nat} {jobId endpointId : String}
    (refers : Refers start jobId endpointId) (answer : Except Thrown StatusAnswer)
    : (afterStatus config jobId answer).Grounded config start
        (asked ++ (Closer.delivery (.fetch jobId endpointId)).asks id (.fetch answer)) := by
  obtain ⟨row, found, endpoint⟩ := refers
  have keyed : row.jobId = jobId := Keyed.get?_key found
  cases answer with
  | error thrown => trivial
  | ok resp =>
      simp only [afterStatus]
      split
      · trivial
      · next accepted =>
          split
          · trivial
          · next status isBody =>
              split
              · trivial
              · next facts derived =>
                  refine ⟨row, by rw [jobId_of_facts derived, found], ?_⟩
                  exact ⟨_, List.mem_append_right _ (List.mem_singleton_self _), resp, status,
                    ⟨keyed.symm, endpoint⟩, rfl, by simpa using accepted, isBody, keyed ▸ derived⟩

/-- A delivery stays grounded, by cases on its stage. -/
theorem DeliveryStage.grounded_next {stage after : DeliveryStage} {id : Nat} {input : CloserInput}
    (isTrue : TrueTo config start asked index) (grounded : stage.Grounded config start asked)
    (moved : stage.next config index input = some after)
    : after.Grounded config start (asked ++ (Closer.delivery stage).asks id input) := by
  cases stage with
  | lookup token =>
      cases input with
      | read outcome =>
          cases outcome with
          | error thrown => cases moved; trivial
          | ok =>
              cases moved
              exact grounded_afterLookup isTrue
      | dies => cases moved; trivial
      | _ => exact nomatch moved
  | credential jobId endpointId =>
      cases input with
      | credential answer =>
          cases moved
          cases answer with
          | error thrown => trivial
          | ok key =>
              simp only [deliveryCredential]
              split
              · trivial
              · exact grounded
      | dies => cases moved; trivial
      | _ => exact nomatch moved
  | fetch jobId endpointId =>
      cases input with
      | fetch answer =>
          cases moved
          exact grounded_afterStatus grounded answer
      | dies => cases moved; trivial
      | _ => exact nomatch moved
  | clock facts =>
      cases input with
      | clock now =>
          cases moved
          obtain ⟨row, found, isRead⟩ := grounded
          exact Backed.append ⟨row, found, .read facts now isRead⟩ _
      | dies => cases moved; trivial
      | _ => exact nomatch moved
  | close closed =>
      cases input with
      | close stamp fate => cases fate <;> cases moved <;> trivial
      | dies => cases moved; trivial
      | _ => exact nomatch moved
  | answered response => exact nomatch moved
  | rejected => exact nomatch moved

-----------------------------------------------------------------------------------------
-- Runs
-----------------------------------------------------------------------------------------

/-- What an action does: a closer comes under a free id, or a closer takes an input. -/
inductive JobClosers.Stepped (config : CloserConfig) (state : JobClosers)
    : CloserAction → JobClosers → Prop
  | sweep (id : Nat) (free : state.closers id = none)
    : Stepped config state (.sweep id)
        { state with closers := Function.update state.closers id (some (.sweep .credential)) }
  | deliver (id : Nat) (token : String) (free : state.closers id = none)
    : Stepped config state (.deliver id token)
        { state with
          closers := Function.update state.closers id (some (.delivery (.lookup token))) }
  | input (id : Nat) (input : CloserInput) (closer after : Closer)
    (here : state.closers id = some closer)
    (moved : closer.next config state.index input = some after)
    : Stepped config state (.input id input)
        { index := closer.writes state.index input
          closers := Function.update state.closers id (some after)
          asked := state.asked ++ closer.asks id input }

theorem JobClosers.comes_eq_some {state next : JobClosers} {id : Nat} {closer : Closer}
    (came : state.comes id closer = some next)
    : state.closers id = none
      ∧ next = { state with closers := Function.update state.closers id (some closer) } := by
  rw [JobClosers.comes] at came
  split at came
  · exact nomatch came
  · next free => exact ⟨free, (Option.some.inj came).symm⟩

/-- Every step is one of these. -/
theorem JobClosers.step_cases {state next : JobClosers} {action : CloserAction}
    (taken : state.step config action = some next)
    : state.Stepped config action next := by
  cases action with
  | sweep id =>
      obtain ⟨free, rfl⟩ := comes_eq_some taken
      exact .sweep id free
  | deliver id token =>
      obtain ⟨free, rfl⟩ := comes_eq_some taken
      exact .deliver id token free
  | input id input =>
      simp only [JobClosers.step] at taken
      split at taken
      · exact nomatch taken
      · next closer here =>
          obtain ⟨after, moved, rfl⟩ := Option.map_eq_some_iff.mp taken
          exact .input id input closer after here moved

/-- The rows are true to those of the start, and every closer knows what it is about. -/
structure JobClosers.Grounded (config : CloserConfig) (start : RunpodJobIndex) (state : JobClosers)
    : Prop where
  rows : TrueTo config start state.asked state.index
  closers
    : ∀ id closer, state.closers id = some closer → closer.Grounded config start state.asked

/-- A closer keeps knowing what it is about. -/
theorem Closer.grounded_next {closer after : Closer} {id : Nat} {input : CloserInput}
    (isTrue : TrueTo config start asked index) (grounded : closer.Grounded config start asked)
    (moved : closer.next config index input = some after)
    : after.Grounded config start (asked ++ closer.asks id input) := by
  cases closer with
  | sweep stage =>
      obtain ⟨after, onward, rfl⟩ := Option.map_eq_some_iff.mp moved
      exact stage.grounded_next isTrue grounded onward
  | delivery stage =>
      obtain ⟨after, onward, rfl⟩ := Option.map_eq_some_iff.mp moved
      exact stage.grounded_next isTrue grounded onward

/-- There is evidence for what a grounded closer is about to write. -/
theorem Closer.backed_of_closing {closer : Closer} (grounded : closer.Grounded config start asked)
    {closed : ProxyJobClose} (closing : closer.closing = some closed)
    : Backed config start asked closed := by
  cases closer with
  | sweep stage =>
      cases stage with
      | close now result written isUnknown rest =>
          cases Option.some.inj closing
          exact grounded.1
      | _ => exact nomatch closing
  | delivery stage =>
      cases stage with
      | close written =>
          cases Option.some.inj closing
          exact grounded
      | _ => exact nomatch closing

/-- A closer changes the index by the write it is about to make, or not at all. -/
theorem Closer.writes_cases (index : RunpodJobIndex) (closer : Closer) (input : CloserInput)
    : closer.writes index input = index
      ∨ ∃ closed stamp fate, closer.closing = some closed
          ∧ input = .close stamp fate ∧ fate ≠ .fails
          ∧ closer.writes index input = (index.closeRunpodProxyJob stamp closed).1 := by
  cases input with
  | close stamp fate =>
      cases closing : closer.closing with
      | none => exact .inl (by simp only [Closer.writes, closing])
      | some closed =>
          cases fate with
          | fails => exact .inl (by simp only [Closer.writes, closing])
          | runs =>
              exact .inr ⟨closed, stamp, .runs, rfl, rfl, nofun, by simp only [Closer.writes, closing]⟩
          | unheard =>
              exact .inr
                ⟨closed, stamp, .unheard, rfl, rfl, nofun, by simp only [Closer.writes, closing]⟩
  | _ => exact .inl rfl

/-- A write of a grounded closer keeps the rows true. -/
theorem TrueTo.writes (isTrue : TrueTo config start asked index) {closer : Closer}
    (grounded : closer.Grounded config start asked) (input : CloserInput)
    : TrueTo config start asked (closer.writes index input) := by
  rcases closer.writes_cases index input with same | ⟨closed, stamp, _, closing, -, -, written⟩
  · rw [same]
    exact isTrue
  · rw [written]
    exact isTrue.close (Closer.backed_of_closing grounded closing) stamp

/-- One step keeps the closers grounded. -/
theorem JobClosers.grounded_step {state next : JobClosers} {action : CloserAction}
    (grounded : state.Grounded config start) (taken : state.step config action = some next)
    : next.Grounded config start := by
  cases step_cases taken with
  | sweep id free =>
      refine ⟨grounded.rows, fun other closer holds => ?_⟩
      rcases held_update_cases holds with isNew | earlier
      · cases Option.some.inj isNew
        trivial
      · exact grounded.closers other closer earlier
  | deliver id token free =>
      refine ⟨grounded.rows, fun other closer holds => ?_⟩
      rcases held_update_cases holds with isNew | earlier
      · cases Option.some.inj isNew
        trivial
      · exact grounded.closers other closer earlier
  | input id input closer after here moved =>
      have known := grounded.closers id closer here
      refine ⟨(grounded.rows.writes known input).append _, fun other closer' holds => ?_⟩
      rcases held_update_cases holds with isNew | earlier
      · cases Option.some.inj isNew
        exact Closer.grounded_next grounded.rows known moved
      · exact (grounded.closers other closer' earlier).append _

/-- From an index that no closer has come to, every closer stays grounded. -/
theorem JobClosers.grounded_of_exec {run : List CloserAction} {final : JobClosers}
    (reached : exec (JobClosers.step config) (.idle start) run = some final)
    : final.Grounded config start := by
  refine exec_preserves (fun _ _ _ => grounded_step) ⟨fun _ => .inl rfl, ?_⟩ reached
  intro id closer holds
  exact nomatch holds

end ControlPlane.RunpodProxy
