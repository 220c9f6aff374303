import ControlPlane.Kek.TokenCrypto
import ControlPlane.Library.Dialogues
import ControlPlane.Library.JsonText
import ControlPlane.Library.Runs
import ControlPlane.Modules.Readiness
import ControlPlane.Routing.Dispatch
import ControlPlane.SigV4.Signing
import ControlPlane.Store.SmokeRenders

/-! Starting a smoke render and driving it on, as programs that call the store and the studio of
the tenant, and the interleavings of one start with any number of drives of its render.
-/

namespace ControlPlane.Smoke

open ControlPlane.Library
open ControlPlane.Store

-----------------------------------------------------------------------------------------
-- What the studio answers
-----------------------------------------------------------------------------------------

/-- A raw studio answer. -/
structure StudioReply where
  status : Nat
  text : String
  deriving DecidableEq, Repr

/-- Bytes pulled back from the studio. -/
structure StudioBytes where
  status : Nat
  bytes : Option (List UInt8)
  contentType : String
  deriving DecidableEq, Repr

/-- A text that is there: neither missing nor empty. -/
def nonempty (text : Option String) : Option String :=
  text.filter fun text => text ≠ ""

def readBundleKey (reply : StudioReply) : Option String :=
  if reply.status ≠ 201 ∧ reply.status ≠ 200 then none
  else
    let body := Json.parse reply.text
    match body.bind (Json.field? "ok") with
    | some (.bool true) => nonempty ((body.bind (Json.field? "bundleKey")).bind Json.text?)
    | _ => none

def readJobId (reply : StudioReply) : Option String :=
  if reply.status ≠ 201 ∧ reply.status ≠ 200 then none
  else
    let body := Json.parse reply.text
    nonempty ((body.bind (Json.field? "jobId")).bind Json.text?)

/-- The first keyframe that has a key. -/
def readKeyframeKey (output : Option Json) : Option String :=
  match output.bind (Json.field? "keyframes") with
  | some (.array frames) =>
      frames.findSome? fun frame => nonempty ((frame.field? "key").bind Json.text?)
  | _ => none

/-- The status that the view of a render names, or the empty text. -/
def runpodStatus (reply : StudioReply) : String :=
  (((Json.parse reply.text).bind (Json.field? "status")).bind Json.text?).getD ""

/-- The artifact that the view of a render names. -/
def namedKey (reply : StudioReply) : Option String :=
  readKeyframeKey ((Json.parse reply.text).bind (Json.field? "output"))

def errorDetail (reply : StudioReply) : String :=
  (nonempty (((Json.parse reply.text).bind (Json.field? "error")).bind Json.text?)).getD
    "no error detail given"

/-- The statuses in which the studio has given a render up. -/
def IsTerminalFailure (status : String) : Prop :=
  status = "FAILED" ∨ status = "CANCELLED" ∨ status = "TIMED_OUT"

instance (status : String) : Decidable (IsTerminalFailure status) := by
  unfold IsTerminalFailure; infer_instance

/-- Keep the record readable. -/
def truncate (text : String) : String :=
  let flat := Kek.trim (String.ofList (SigV4.collapse text.toList))
  if 400 < Routing.utf16Length flat then Modules.slice 400 flat ++ "..." else flat

-----------------------------------------------------------------------------------------
-- The two programs
-----------------------------------------------------------------------------------------

/-- A call of the store or of the studio. -/
inductive Ask
  | openSmokeRender (args : OpenSmokeRender)
  | getSmokeRender (id : String)
  | setSmokeRenderSubmitted (id studioJobId bundleKey : String)
  | finishSmokeRender (id : String) (outcome : SmokeOutcome)
  | putCanonicalBundle
  | submitKeyframeRender (bundleKey : String)
  | pollRender (studioJobId : String)
  | fetchArtifact (key : String)

abbrev Ask.Answer : Ask → Type
  | .openSmokeRender _ => Except ConstraintViolation (Option SmokeRender)
  | .getSmokeRender _ => Option SmokeRender
  | .setSmokeRenderSubmitted .. => Unit
  | .finishSmokeRender .. => Unit
  | .putCanonicalBundle => StudioReply
  | .submitKeyframeRender _ => StudioReply
  | .pollRender _ => StudioReply
  | .fetchArtifact _ => StudioBytes

abbrev call (question : Ask) : Dialogue Ask Ask.Answer question.Answer :=
  .ask question

/-- How a start ends. What the spend guard says of a refusal is left out. -/
inductive SmokeRenderStart
  | started (smoke : SmokeRender)
  | spendGuard
  | studioRefused (smoke : SmokeRender) (message : String) (studioStatus : Nat)

/-- Open a smoke render and drive it as far as the studio's own submit. A constraint that the
INSERT violates is thrown.
-/
def startSmokeRender (args : OpenSmokeRender)
    : Dialogue Ask Ask.Answer (Except ConstraintViolation SmokeRenderStart) := do
  let opened : Except ConstraintViolation (Option SmokeRender) ← call (.openSmokeRender args)
  match opened with
  | .error violation => return .error violation
  | .ok none => return .ok .spendGuard
  | .ok (some smoke) =>
      let bundle : StudioReply ← call .putCanonicalBundle
      match readBundleKey bundle with
      | none =>
          let message :=
            "the tenant studio would not build the smoke bundle (HTTP "
            ++ toString bundle.status ++ "): " ++ truncate bundle.text
          call (.finishSmokeRender smoke.id (.failed message))
          return .ok (.studioRefused smoke message bundle.status)
      | some bundleKey =>
          let submit : StudioReply ← call (.submitKeyframeRender bundleKey)
          match readJobId submit with
          | none =>
              let message :=
                "the tenant studio would not accept the smoke render (HTTP "
                ++ toString submit.status ++ "): " ++ truncate submit.text
              call (.finishSmokeRender smoke.id (.failed message))
              return .ok (.studioRefused smoke message submit.status)
          | some studioJobId =>
              call (.setSmokeRenderSubmitted smoke.id studioJobId bundleKey)
              let updated : Option SmokeRender ← call (.getSmokeRender smoke.id)
              return .ok (.started (updated.getD smoke))

/-- The render is older than inFlightSeconds. The clock counts milliseconds, and created_at whole
seconds.
-/
def OutOfTime (bounds : SmokeRenderBounds) (clock createdAt : Nat) : Prop :=
  bounds.inFlightSeconds * 1000 < clock - createdAt * 1000

instance (bounds : SmokeRenderBounds) (clock createdAt : Nat)
    : Decidable (OutOfTime bounds clock createdAt) := by
  unfold OutOfTime; infer_instance

def reread (smoke : SmokeRender) : Dialogue Ask Ask.Answer SmokeRender := do
  let row : Option SmokeRender ← call (.getSmokeRender smoke.id)
  return row.getD smoke

def fail (smoke : SmokeRender) (message : String) : Dialogue Ask Ask.Answer SmokeRender := do
  call (.finishSmokeRender smoke.id (.failed message))
  reread smoke

/-- The bytes of an artifact that is evidence: fetched, and not empty. -/
def fetchedBytes (got : StudioBytes) : Option (List UInt8) :=
  if got.status = 200 then got.bytes.filter fun bytes => bytes ≠ [] else none

/-- Drive a running smoke render one step, and record a terminal outcome. The digest of the
platform is a parameter.
-/
def advanceSmokeRender (sha256Hex : List UInt8 → String) (bounds : SmokeRenderBounds)
    (clock : Nat) (smoke : SmokeRender)
    : Dialogue Ask Ask.Answer SmokeRender := do
  if smoke.status ≠ .running then
    return smoke
  else
    match nonempty smoke.studioJobId with
    | none =>
        fail smoke
          "no studio job was ever recorded for this smoke render; the submit did not land"
    | some studioJobId =>
        if OutOfTime bounds clock smoke.createdAt then
          fail smoke
            ("the smoke render did not finish within " ++ toString bounds.inFlightSeconds
            ++ "s; giving up rather than reporting a render nothing observed complete")
        else
          let poll : StudioReply ← call (.pollRender studioJobId)
          if poll.status ≠ 200 then
            -- A transient blip must not condemn a render that may well be running.
            return smoke
          else if IsTerminalFailure (runpodStatus poll) then
            fail smoke
              ("the tenant studio reported the render " ++ runpodStatus poll ++ ": "
              ++ truncate (errorDetail poll))
          else if runpodStatus poll ≠ "COMPLETED" then
            return smoke
          else
            match namedKey poll with
            | none =>
                fail smoke
                  ("the tenant studio reported COMPLETED but named no keyframe artifact; a "
                  ++ "completed job with nothing to look at is not a pass")
            | some key =>
                let got : StudioBytes ← call (.fetchArtifact key)
                match fetchedBytes got with
                | none =>
                    fail smoke
                      ("the render reported COMPLETED but its artifact could not be fetched (key "
                      ++ key ++ ", HTTP " ++ toString got.status ++ ", "
                      ++ toString (got.bytes.elim 0 List.length)
                      ++ " bytes). The artifact is the evidence; without it there is nothing "
                      ++ "verified.")
                | some bytes =>
                    let artifact : SmokeRenderArtifact :=
                      { key
                        bytes := bytes.length
                        sha256 := sha256Hex bytes
                        contentType := got.contentType }
                    call (.finishSmokeRender smoke.id (.succeeded artifact))
                    reread smoke

-----------------------------------------------------------------------------------------
-- The store, the studio and the clock
-----------------------------------------------------------------------------------------

/-- What the studio answered to which call. -/
inductive Heard
  | bundle (reply : StudioReply)
  | submit (reply : StudioReply)
  | poll (studioJobId : String) (reply : StudioReply)
  | artifact (key : String) (got : StudioBytes)
  deriving DecidableEq

/-- The database, the clock in milliseconds, and all that the studio has answered. -/
structure World where
  db : SmokeDb
  clock : Nat
  heard : List Heard

/-- What the outside contributes to the answer of a call: the time it takes, and what the studio
says if it is asked.
-/
structure Input where
  elapsed : Nat
  reply : StudioReply
  got : StudioBytes

def World.after (world : World) (elapsed : Nat) : World :=
  { world with clock := world.clock + elapsed }

def World.hears (world : World) (heard : Heard) : World :=
  { world with heard := world.heard ++ [heard] }

def World.render (world : World) (id : String) : Option SmokeRender :=
  world.db.renders.get? id

def World.update (world : World) (update : Update SmokeRender.id) : World :=
  { world with db := { world.db with renders := update.apply world.db.renders } }

/-- A call, answered. The database keeps time in seconds. -/
def serve (bounds : SmokeRenderBounds) (before : World) (question : Ask) (input : Input)
    : World × question.Answer :=
  let world := before.after input.elapsed
  match question with
  | .openSmokeRender args =>
      match world.db.openSmokeRender (world.clock / 1000) args bounds with
      | .ok (db, opened) => ({ world with db }, .ok opened)
      | .error violation => (world, .error violation)
  | .getSmokeRender id => (world, world.render id)
  | .setSmokeRenderSubmitted id studioJobId bundleKey =>
      (world.update
        (Store.setSmokeRenderSubmitted (world.clock / 1000) id studioJobId bundleKey), ())
  | .finishSmokeRender id outcome =>
      (world.update (Store.finishSmokeRender (world.clock / 1000) id outcome), ())
  | .putCanonicalBundle => (world.hears (.bundle input.reply), input.reply)
  | .submitKeyframeRender _ => (world.hears (.submit input.reply), input.reply)
  | .pollRender studioJobId => (world.hears (.poll studioJobId input.reply), input.reply)
  | .fetchArtifact key => (world.hears (.artifact key input.got), input.got)

-----------------------------------------------------------------------------------------
-- One start and any number of polls
-----------------------------------------------------------------------------------------

/-- A start of a smoke render, and the polls of its render that have begun. A program that is not
put forward again has been cut off.
-/
structure Rendering where
  world : World
  start : Dialogue Ask Ask.Answer (Except ConstraintViolation SmokeRenderStart)
  polls : List (Dialogue Ask Ask.Answer SmokeRender)

inductive Action
  | startNext (input : Input)
  | pollBegins (elapsed : Nat)
  | pollNext (place : Nat) (input : Input)

section

variable (sha256Hex : List UInt8 → String) (bounds : SmokeRenderBounds) (id : String)

/-- The next call of the start or of a poll, or a poll that begins with the row as it is stored. -/
def step (state : Rendering) : Action → Option Rendering
  | .startNext input =>
      (state.start.next (serve bounds) state.world input).map fun served =>
        { state with
          world := served.1
          start := served.2 }
  | .pollBegins elapsed =>
      let world := state.world.after elapsed
      (world.render id).map fun smoke =>
        { state with
          world
          polls := state.polls ++ [advanceSmokeRender sha256Hex bounds world.clock smoke] }
  | .pollNext place input =>
      state.polls[place]?.bind fun poll =>
        (poll.next (serve bounds) state.world input).map fun served =>
          { state with
            world := served.1
            polls := state.polls.set place served.2 }

end

end ControlPlane.Smoke
