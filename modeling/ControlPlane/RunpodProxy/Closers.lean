import ControlPlane.Library.Runs
import ControlPlane.RunpodProxy.Gate

/-! The two closers of proxied jobs: the sweep of the cron, and a callback of RunPod. Neither believes
what it was told: each asks RunPod for the status itself, and closes the row under a guard. Any number
of them run at once, one statement or request at a time.
-/

namespace ControlPlane.RunpodProxy

open ControlPlane.Library
open ControlPlane.Store
open ControlPlane.StudioBindings

-----------------------------------------------------------------------------------------
-- A status
-----------------------------------------------------------------------------------------

/-- The closed outcomes of a job. -/
inductive JobOutcome
  | submitted
  | completed
  | failed
  | cancelled
  | timedOut
  | unknown
  deriving DecidableEq, Repr

def JobOutcome.text : JobOutcome → String
  | .submitted => "submitted"
  | .completed => "completed"
  | .failed => "failed"
  | .cancelled => "cancelled"
  | .timedOut => "timed-out"
  | .unknown => "unknown"

def outcomeForStatus (status : String) : Option JobOutcome :=
  if status = "COMPLETED" then some .completed
  else if status = "FAILED" then some .failed
  else if status = "CANCELLED" then some .cancelled
  else if status = "TIMED_OUT" then some .timedOut
  else none

/-- Everything the terminal writer needs, of a status the plane read itself. -/
structure TerminalFacts where
  jobId : String
  statusRaw : String
  outcome : JobOutcome
  executionMs : Option Int
  delayMs : Option Int
  deriving DecidableEq, Repr

/-- What a plane computes of what it is sent: digests, and the finite numbers of JSON spellings. -/
structure CloserConfig where
  sha256Hex : String → String
  finite : String → Option Int

/-- A number that was reported. -/
def reportedNumber (config : CloserConfig) : Option Json → Option Int
  | some (.num spelled) => config.finite spelled
  | _ => none

/-- The facts of a status, where it is terminal. -/
def terminalFactsFromStatus (config : CloserConfig) (jobId : String) (status : Json)
    : Option TerminalFacts :=
  let statusRaw := ((status.field? "status").bind Json.text?).getD ""
  (outcomeForStatus statusRaw).map fun outcome =>
    { jobId := jobId
      statusRaw := statusRaw
      outcome := outcome
      executionMs := reportedNumber config (status.field? "executionTime")
      delayMs := reportedNumber config (status.field? "delayTime") }

/-- What is thrown: its message, and String of it. -/
structure Thrown where
  message : String
  printed : String
  deriving DecidableEq, Repr

/-- An answer to a status request, with what reading its body as JSON gives. -/
structure StatusAnswer where
  status : Nat
  body : Except Thrown Json

/-- A status of 2xx. -/
def StatusAnswer.ok (answer : StatusAnswer) : Bool :=
  200 ≤ answer.status ∧ answer.status ≤ 299

/-- The terminal write of facts. -/
def closeWith (facts : TerminalFacts) (terminalAt : Int) : ProxyJobClose where
  jobId := facts.jobId
  outcome := facts.outcome.text
  statusRaw := facts.statusRaw
  executionMs := facts.executionMs
  delayMs := facts.delayMs
  terminalAt := terminalAt

/-- The terminal write of a job that can never be answered for. -/
def closeUnknown (jobId : String) (terminalAt : Int) : ProxyJobClose where
  jobId := jobId
  outcome := JobOutcome.unknown.text
  statusRaw := ""
  executionMs := none
  delayMs := none
  terminalAt := terminalAt

-----------------------------------------------------------------------------------------
-- The sweep
-----------------------------------------------------------------------------------------

def RECONCILER_ADOPT_AFTER_MS : Int := 5 * 60000

def OBSERVED_RESULT_RETENTION_MS : Int := 30 * 60000

def SWEEP_MAX_ROWS_PER_RUN : Nat := 50

/-- What one sweep did. -/
structure JobSweepResult where
  ran : Bool
  reason : Option String := none
  eligible : Nat := 0
  examined : Nat := 0
  closed : Nat := 0
  unknown : Nat := 0
  stillRunning : Nat := 0
  errors : Nat := 0
  deriving DecidableEq, Repr

/-- What asking RunPod about one job told. -/
inductive Probe
  | terminal (status : Json)
  | running
  | gone
  | error

def probeJob (config : CloserConfig) (job : OpenProxyJob) (answer : Except Thrown StatusAnswer)
    : Probe :=
  match answer with
  | .error _ => .error
  | .ok resp =>
      if resp.status = 404 then .gone
      else if !resp.ok then .error
      else
        match resp.body with
        | .error _ => .error
        | .ok body =>
            if (terminalFactsFromStatus config job.jobId body).isSome then .terminal body
            else .running

/-- Where a sweep stands. Its clock is read once, and the row at hand is in front of the rest. -/
inductive SweepStage
  | credential
  | clock
  | count (now : Int)
  | list (now : Int) (eligible : Nat)
  | probe (now : Int) (result : JobSweepResult) (job : OpenProxyJob) (rest : List OpenProxyJob)
  | close (now : Int) (result : JobSweepResult) (closed : ProxyJobClose) (isUnknown : Bool)
      (rest : List OpenProxyJob)
  | done (result : JobSweepResult)
  | rejected

/-- The next row, or the end of the tick. -/
def nextJob (now : Int) (result : JobSweepResult) : List OpenProxyJob → SweepStage
  | [] => .done result
  | job :: rest => .probe now result job rest

def sweepCredential : Except Thrown String → SweepStage
  | .error thrown =>
      .done { ran := false, reason := some ("credential_unavailable: " ++ thrown.printed) }
  | .ok key =>
      if key = "" then .done { ran := false, reason := some "credential_unavailable" } else .clock

/-- A row is old enough that retention explains why RunPod does not have its job. -/
def pastHorizon (now : Int) (job : OpenProxyJob) : Bool :=
  job.submittedAt.any fun submittedAt => OBSERVED_RESULT_RETENTION_MS < now - submittedAt

def afterProbe (config : CloserConfig) (now : Int) (result : JobSweepResult) (job : OpenProxyJob)
    (rest : List OpenProxyJob)
    : Probe → SweepStage
  | .error => nextJob now { result with errors := result.errors + 1 } rest
  | .running => nextJob now { result with stillRunning := result.stillRunning + 1 } rest
  | .terminal status =>
      match terminalFactsFromStatus config job.jobId status with
      | some facts => .close now result (closeWith facts now) false rest
      | none => .rejected
  | .gone =>
      if pastHorizon now job then .close now result (closeUnknown job.jobId now) true rest
      else nextJob now { result with errors := result.errors + 1 } rest

/-- A close counts where it was the first. -/
def afterClose (now : Int) (result : JobSweepResult) (isUnknown : Bool) (rest : List OpenProxyJob)
    (changes : Nat)
    : SweepStage :=
  nextJob now
    (if changes = 1 then
      if isUnknown then { result with unknown := result.unknown + 1 }
      else { result with closed := result.closed + 1 }
    else result)
    rest

/-- How a write ends: it runs, it does not, or it runs and nobody is told. -/
inductive WriteFate
  | runs
  | fails
  | unheard
  deriving DecidableEq, Repr

/-- What reaches a closer. A write is stamped with the clock of the database. -/
inductive CloserInput
  | credential (answer : Except Thrown String)
  | clock (now : Int)
  | read (outcome : Except Thrown Unit)
  | fetch (answer : Except Thrown StatusAnswer)
  | close (stamp : Nat) (fate : WriteFate)
  | dies

def SweepStage.next (config : CloserConfig) (index : RunpodJobIndex)
    : SweepStage → CloserInput → Option SweepStage
  | .done _, _ | .rejected, _ => none
  | _, .dies => some .rejected
  | .credential, .credential answer => some (sweepCredential answer)
  | .clock, .clock now => some (.count now)
  | .count _, .read (.error _) | .list _ _, .read (.error _) => some .rejected
  | .count now, .read (.ok ()) =>
      some (.list now (index.countOpenRunpodProxyJobs (now - RECONCILER_ADOPT_AFTER_MS)))
  | .list now eligible, .read (.ok ()) =>
      let rows :=
        index.listOpenRunpodProxyJobs (now - RECONCILER_ADOPT_AFTER_MS) SWEEP_MAX_ROWS_PER_RUN
      some
        (nextJob now { ran := true, eligible := eligible, examined := rows.length } rows)
  | .probe now result job rest, .fetch answer =>
      some (afterProbe config now result job rest (probeJob config job answer))
  | .close now result closed isUnknown rest, .close stamp .runs =>
      some (afterClose now result isUnknown rest (index.closeRunpodProxyJob stamp closed).2)
  | .close _ _ _ _ _, .close _ _ => some .rejected
  | _, _ => none

-----------------------------------------------------------------------------------------
-- A callback
-----------------------------------------------------------------------------------------

/-- Where a delivery stands. -/
inductive DeliveryStage
  | lookup (token : String)
  | credential (jobId endpointId : String)
  | fetch (jobId endpointId : String)
  | clock (facts : TerminalFacts)
  | close (closed : ProxyJobClose)
  | answered (response : PlaneResponse)
  | rejected

def unknownCallback : PlaneResponse where
  status := 404
  body := (Json.object [("error", .str "unknown callback")]).stringify

def closedResponse (closed : Bool) : PlaneResponse where
  status := 200
  body := (Json.object [("ok", .bool true), ("closed", .bool closed)]).stringify

/-- What a delivery makes of the row under its token. A closed row ends it here. -/
def afterLookup : Option ProxyJobRef → DeliveryStage
  | none => .answered unknownCallback
  | some ref =>
      if ref.terminalAt ≠ none then .answered (closedResponse false)
      else
        match truthy ref.endpointId with
        | none => .answered (planeUnavailable "row-incomplete" "job row carries no endpoint id")
        | some endpointId => .credential ref.jobId endpointId

def deliveryCredential (jobId endpointId : String) : Except Thrown String → DeliveryStage
  | .error thrown => .answered (planeUnavailable "credential-unavailable" thrown.message)
  | .ok key =>
      if key = "" then
        .answered (planeUnavailable "credential-unavailable" "no RunPod credential on the proxy")
      else .fetch jobId endpointId

/-- What a delivery makes of the authoritative read. -/
def afterStatus (config : CloserConfig) (jobId : String)
    : Except Thrown StatusAnswer → DeliveryStage
  | .error thrown => .answered (planeUnavailable "status-unreachable" thrown.message)
  | .ok resp =>
      if !resp.ok then
        .answered
          (planeUnavailable "status-read-failed" ("upstream status " ++ toString resp.status))
      else
        match resp.body with
        | .error thrown => .answered (planeUnavailable "status-unreachable" thrown.message)
        | .ok status =>
            match terminalFactsFromStatus config jobId status with
            | none =>
                .answered (planeUnavailable "not-terminal" "authoritative status is not terminal")
            | some facts => .clock facts

def DeliveryStage.next (config : CloserConfig) (index : RunpodJobIndex)
    : DeliveryStage → CloserInput → Option DeliveryStage
  | .answered _, _ | .rejected, _ => none
  | _, .dies => some .rejected
  | .lookup _, .read (.error thrown) =>
      some (.answered (planeUnavailable "store-unavailable" thrown.message))
  | .lookup token, .read (.ok ()) =>
      some (afterLookup (index.findRunpodProxyJobByWebhookToken (config.sha256Hex token)))
  | .credential jobId endpointId, .credential answer =>
      some (deliveryCredential jobId endpointId answer)
  | .fetch jobId _, .fetch answer => some (afterStatus config jobId answer)
  | .clock facts, .clock now => some (.close (closeWith facts now))
  | .close closed, .close stamp .runs =>
      some (.answered (closedResponse ((index.closeRunpodProxyJob stamp closed).2 = 1)))
  | .close _, .close _ _ => some .rejected
  | _, _ => none

-----------------------------------------------------------------------------------------
-- Closers at work on one index
-----------------------------------------------------------------------------------------

inductive Closer
  | sweep (stage : SweepStage)
  | delivery (stage : DeliveryStage)

def Closer.next (config : CloserConfig) (index : RunpodJobIndex) (input : CloserInput)
    : Closer → Option Closer
  | .sweep stage => (stage.next config index input).map .sweep
  | .delivery stage => (stage.next config index input).map .delivery

/-- The write that a closer is about to make. -/
def Closer.closing : Closer → Option ProxyJobClose
  | .sweep (.close _ _ closed _ _) => some closed
  | .delivery (.close closed) => some closed
  | _ => none

/-- The index after an input. A write that fails leaves it as it was. -/
def Closer.writes (index : RunpodJobIndex) (closer : Closer) : CloserInput → RunpodJobIndex
  | .close stamp fate =>
      match closer.closing, fate with
      | some closed, .runs | some closed, .unheard => (index.closeRunpodProxyJob stamp closed).1
      | _, _ => index
  | _ => index

/-- A status request, and what came of it: nothing where the closer died over it. Only a sweep has a
clock when it asks.
-/
structure StatusRequest where
  closer : Nat
  sweptAt : Option Int
  endpointId : String
  jobId : String
  answer : Option (Except Thrown StatusAnswer)

/-- How the wait for an answer ends. -/
def CloserInput.endsWait : CloserInput → List (Option (Except Thrown StatusAnswer))
  | .fetch answer => [some answer]
  | .dies => [none]
  | _ => []

/-- The requests of a closer up to an input. -/
def Closer.asks (id : Nat) (input : CloserInput) : Closer → List StatusRequest
  | .sweep (.probe now _ job _) =>
      input.endsWait.map fun answer =>
        { closer := id
          sweptAt := some now
          endpointId := job.endpointId
          jobId := job.jobId
          answer := answer }
  | .delivery (.fetch jobId endpointId) =>
      input.endsWait.map fun answer =>
        { closer := id
          sweptAt := none
          endpointId := endpointId
          jobId := jobId
          answer := answer }
  | _ => []

/-- The index, the closers at work on it, and every request they made. -/
structure JobClosers where
  index : RunpodJobIndex
  closers : Nat → Option Closer
  asked : List StatusRequest

/-- An index that no closer has come to. -/
def JobClosers.idle (index : RunpodJobIndex) : JobClosers where
  index := index
  closers _ := none
  asked := []

inductive CloserAction
  | sweep (id : Nat)
  | deliver (id : Nat) (token : String)
  | input (id : Nat) (input : CloserInput)

/-- A closer comes under a free id. -/
def JobClosers.comes (state : JobClosers) (id : Nat) (closer : Closer) : Option JobClosers :=
  match state.closers id with
  | some _ => none
  | none => some { state with closers := Function.update state.closers id (some closer) }

/-- One statement, request or clock of one closer. -/
def JobClosers.step (config : CloserConfig) (state : JobClosers) : CloserAction → Option JobClosers
  | .sweep id => state.comes id (.sweep .credential)
  | .deliver id token => state.comes id (.delivery (.lookup token))
  | .input id input =>
      match state.closers id with
      | none => none
      | some closer =>
          (closer.next config state.index input).map fun after =>
            { index := closer.writes state.index input
              closers := Function.update state.closers id (some after)
              asked := state.asked ++ closer.asks id input }

end ControlPlane.RunpodProxy
