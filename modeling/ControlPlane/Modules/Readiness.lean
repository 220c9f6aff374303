import ControlPlane.Meter.Settlement
import ControlPlane.Modules.Catalog
import ControlPlane.TenantLifecycle.GoLive

/-! Waiting until every module serves its key. Each round probes the modules that could not see the
key yet, and there is a deadline for going on.
-/

namespace ControlPlane.Modules

open ControlPlane.Library
open ControlPlane.Meter (sliceUnits)
open ControlPlane.TenantLifecycle (UnverifiedModule)

-----------------------------------------------------------------------------------------
-- One answer
-----------------------------------------------------------------------------------------

def bool? : Json → Option Bool
  | .bool value => some value
  | _ => none

inductive DoorBacking
  | absent
  | door (token : Bool)
  | unreadable
  deriving DecidableEq, Repr

def parseDoorBacking (raw : Option Json) : DoorBacking :=
  match raw with
  | none | some .null => .absent
  | some (.object members) =>
      match ((Json.object members).field? "token").bind bool? with
      | some token => .door token
      | none => .unreadable
  | some _ => .unreadable

inductive ModuleReadyVerdict
  | ready
  | notVisibleYet
  | unverifiable
  | misconfigured
  deriving DecidableEq, Repr

/-- What the credentials say where no door answers for them. -/
def classifyCredentials (body : Json) : ModuleReadyVerdict :=
  let creds := body.field? "credentials"
  match (creds.bind (Json.field? "runpod_api_key")).bind bool? with
  | none => .misconfigured
  | some apiKey =>
      match creds.bind (Json.field? "runpod_endpoint_id") with
      -- a public endpoint is no credential, so there is none to see
      | none => if apiKey then .ready else .notVisibleYet
      | some endpointId =>
          match bool? endpointId with
          | none => .misconfigured
          | some true => if apiKey then .ready else .notVisibleYet
          | some false => .misconfigured

/-- What one answer means. There is no verdict on the text null, whose fields cannot be read: the
call throws.
-/
def classifyReadyResponse (status : Nat) (text expectedModule : String)
    : Option ModuleReadyVerdict :=
  if status = 404 then some .unverifiable
  else if status ≠ 200 then some .misconfigured
  else
    match Json.parse text with
    | none => some .misconfigured
    | some .null => none
    | some body =>
        if (body.field? "module").bind Json.text? ≠ some expectedModule then some .misconfigured
        else
          match parseDoorBacking (body.field? "door") with
          -- the door is the whole answer
          | .door token => some (if token then .ready else .misconfigured)
          | .absent | .unreadable => some (classifyCredentials body)

-----------------------------------------------------------------------------------------
-- What is probed
-----------------------------------------------------------------------------------------

def MODULE_READY_PROBE_DEADLINE_MS : Int := 10000

def MODULE_READY_BACKOFF_MS : List Int := [250, 500, 1000, 2000]

/-- The wait after an attempt. -/
def backoffAfter (attempts : Nat) : Int :=
  MODULE_READY_BACKOFF_MS.getD (min (attempts - 1) (MODULE_READY_BACKOFF_MS.length - 1)) 0

/-- A call of a module throws, or it is answered. -/
inductive ReadyAnswer
  | failed
  | answered (status : Nat) (text : String)
  deriving DecidableEq, Repr

/-- One module that was asked, and what came of it. -/
structure Probe where
  module : String
  script : String
  answer : ReadyAnswer
  deriving DecidableEq, Repr

/-- What is made of an answer. There is none where the call threw. -/
def Probe.verdict (probe : Probe) : Option ModuleReadyVerdict :=
  match probe.answer with
  | .failed => none
  | .answered status text => classifyReadyResponse status text probe.module

/-- A tenant's modules as they answer, by the attempt and the script and path that is called, and a
clock. The reading with number 0 is the one at the start; each attempt reads it once more.
-/
structure ReadyWorld where
  tenantId : String
  callTenantModule : Nat → String → String → ReadyAnswer
  now : Nat → Int

inductive TenantModuleStep
  | modulesUpload
  | modulesInstall
  | verify
  deriving DecidableEq, Repr

def TenantModuleStep.text : TenantModuleStep → String
  | .modulesUpload => "modules_upload"
  | .modulesInstall => "modules_install"
  | .verify => "verify"

structure TenantModuleError where
  step : TenantModuleStep
  message : String
  deriving DecidableEq, Repr

/-- What waiting throws: the error of a probe itself, or one with a diagnosis. -/
inductive ReadyFailure
  | probe
  | module (error : TenantModuleError)
  deriving DecidableEq, Repr

structure ModuleReadiness where
  verified : List String
  unverified : List UnverifiedModule
  unconfirmed : List String
  notProbed : List String
  attempts : Nat
  elapsedMs : Int
  deriving DecidableEq, Repr

inductive ReadyOutcome
  | threw (failure : ReadyFailure)
  | returned (readiness : ModuleReadiness)
  deriving DecidableEq, Repr

/-- A sleep: how long the wait had lasted when it began, and for how long it is. -/
structure Sleep where
  elapsedMs : Int
  wait : Int
  deriving DecidableEq, Repr

/-- How waiting ended, the probes of each round, and the sleeps between the rounds. -/
structure ReadyRun where
  outcome : ReadyOutcome
  rounds : List (List Probe)
  sleeps : List Sleep
  deriving DecidableEq, Repr

-----------------------------------------------------------------------------------------
-- The loop
-----------------------------------------------------------------------------------------

def slice (units : Nat) (text : String) : String :=
  String.ofList (sliceUnits units text.toList)

/-- What is said of a module that answered 404. -/
def unverifiableDetail (script text : String) : String :=
  let excerpt := slice 200 text
  script ++ " did not answer GET /ready (404): either the module image predates "
  ++ "/ready, or the probe could not reach it (no module under that script name, or the "
  ++ "control plane cannot dispatch to the module namespace). Credential propagation could "
  ++ "not be verified either way. Response: "
  ++ (if excerpt = "" then "(empty)" else excerpt) ++ ". "
  ++ "Check that response first: if it names a missing binding the defect is in the control "
  ++ "plane deploy, not the tenant; otherwise re-provision against a release that carries "
  ++ "/ready, and if it still 404s the script is missing, not stale"

def noModulesError (catalog : List TenantModuleSpec) : TenantModuleError where
  step := .verify
  message :=
    "no RunPod-reaching modules in a catalog of " ++ toString catalog.length
    ++ ": refusing to report readiness for a tenant whose module set was never probed "
    ++ "(reachesRunpod excluded every row)"

def misconfiguredError (probe : Probe) (status : Nat) (text : String) (attempts : Nat)
    (elapsedMs : Int)
    : TenantModuleError where
  step := .verify
  message :=
    "module " ++ probe.module ++ " (" ++ probe.script ++ ") /ready -> " ++ toString status ++ ": "
    ++ slice 200 text ++ " (not retryable; attempts=" ++ toString attempts ++ ", elapsed="
    ++ toString elapsedMs ++ "ms)"

/-- Where the loop is: what it has found, and whom it still has to ask. -/
structure ReadyLoop where
  attempts : Nat := 0
  pending : List String
  verified : List String := []
  unverified : List UnverifiedModule := []
  deriving DecidableEq, Repr

/-- The results of a round, in order. The first module that is misconfigured ends it. -/
def takeResults (attempts : Nat) (elapsedMs : Int)
    : ReadyLoop → List Probe → Except TenantModuleError ReadyLoop
  | loop, [] => .ok loop
  | loop, probe :: rest =>
      match probe.answer, probe.verdict with
      | .answered _ _, some .ready =>
          takeResults attempts elapsedMs
            { loop with verified := loop.verified ++ [probe.module] } rest
      | .answered _ text, some .unverifiable =>
          let unverified :=
            {
              module := probe.module,
              script := probe.script,
              detail := unverifiableDetail probe.script text
            }
          takeResults attempts elapsedMs
            { loop with unverified := loop.unverified ++ [unverified] } rest
      | .answered status text, some .misconfigured =>
          .error (misconfiguredError probe status text attempts elapsedMs)
      | _, _ =>
          takeResults attempts elapsedMs
            { loop with pending := loop.pending ++ [probe.module] } rest

/-- What a round comes to. -/
inductive Turn
  | ended (outcome : ReadyOutcome)
  | sleeps (sleep : Sleep) (next : ReadyLoop)

section World

variable (world : ReadyWorld)

/-- All modules that are left are asked at once. -/
def probes (loop : ReadyLoop) : List Probe :=
  loop.pending.map fun moduleName =>
    let script := tenantModuleScriptName world.tenantId moduleName
    {
      module := moduleName,
      script,
      answer := world.callTenantModule (loop.attempts + 1) script "/ready"
    }

/-- One round, from its answers on. -/
def turn (catalog : List TenantModuleSpec) (deadlineMs : Int) (loop : ReadyLoop) : Turn :=
  let attempts := loop.attempts + 1
  let results := probes world loop
  -- Promise.all rejects as soon as one of the probes does
  if results.any fun probe => probe.verdict = none then .ended (.threw .probe)
  else
    let elapsedMs := world.now attempts - world.now 0
    match takeResults attempts elapsedMs { loop with attempts, pending := [] } results with
    | .error error => .ended (.threw (.module error))
    | .ok next =>
        let wait := backoffAfter attempts
        if next.pending = [] ∨ deadlineMs ≤ elapsedMs + wait then
          .ended
            (.returned
              {
                verified := next.verified,
                unverified := next.unverified,
                unconfirmed := next.pending,
                notProbed :=
                  (catalog.filter fun spec => !reachesRunpod spec).map TenantModuleSpec.module,
                attempts,
                elapsedMs
              })
        else .sleeps { elapsedMs, wait } next

/-- Round after round, as far as the fuel goes. -/
def rounds (catalog : List TenantModuleSpec) (deadlineMs : Int) : Nat → ReadyLoop → Option ReadyRun
  | 0, _ => none
  | fuel + 1, loop =>
      match turn world catalog deadlineMs loop with
      | .ended outcome => some { outcome, rounds := [probes world loop], sleeps := [] }
      | .sleeps sleep next =>
          (rounds catalog deadlineMs fuel next).map fun run =>
            {
              run with
              rounds := probes world loop :: run.rounds,
              sleeps := sleep :: run.sleeps
            }

def awaitTenantModulesReady (deadlineMs : Int) (catalog : List TenantModuleSpec) (fuel : Nat)
    : Option ReadyRun :=
  let pending := (catalog.filter reachesRunpod).map TenantModuleSpec.module
  if pending = [] then
    some { outcome := .threw (.module (noModulesError catalog)), rounds := [], sleeps := [] }
  else rounds world catalog deadlineMs fuel { pending }

end World

end ControlPlane.Modules
