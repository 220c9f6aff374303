import ControlPlane.Smoke.Renders

/-! What makes the record of a smoke render truthful, and what the single calls of the programs do
to it: which of them leave the render, and when a terminal write is justified.
-/

namespace ControlPlane.Smoke

open ControlPlane.Library
open ControlPlane.Store

-----------------------------------------------------------------------------------------
-- What makes a record truthful
-----------------------------------------------------------------------------------------

/-- The evidence of a succeeded render: a COMPLETED answer for its studio job, and an artifact that
was fetched, whose key, length, digest and type are stored.
-/
structure Evidence (sha256Hex : List UInt8 → String) (heard : List Heard) (row : SmokeRender)
    (studioJobId : String) (reply : StudioReply) (key : String) (got : StudioBytes)
    (bytes : List UInt8) : Prop where
  recorded : row.studioJobId = some studioJobId
  polled : Heard.poll studioJobId reply ∈ heard ∧ reply.status = 200
  completed : runpodStatus reply = "COMPLETED" ∧ namedKey reply = some key
  fetched : Heard.artifact key got ∈ heard ∧ got.status = 200
  present : got.bytes = some bytes ∧ bytes ≠ []
  stored
    : row.artifactKey = some key ∧ row.artifactBytes = some bytes.length
      ∧ row.artifactSha256 = some (sha256Hex bytes)
      ∧ row.artifactContentType = some got.contentType

/-- Why a render may be closed as failed. -/
inductive Cause (bounds : SmokeRenderBounds) (world : World) (studioJobId : Option String)
    (createdAt : Nat) : Prop
  | bundleRefused (reply : StudioReply) (heard : Heard.bundle reply ∈ world.heard)
      (refused : readBundleKey reply = none)
  | submitRefused (reply : StudioReply) (heard : Heard.submit reply ∈ world.heard)
      (refused : readJobId reply = none)
  | terminal (job : String) (reply : StudioReply) (recorded : studioJobId = some job)
      (heard : Heard.poll job reply ∈ world.heard ∧ reply.status = 200)
      (failed : IsTerminalFailure (runpodStatus reply))
  | noArtifact (job : String) (reply : StudioReply) (recorded : studioJobId = some job)
      (heard : Heard.poll job reply ∈ world.heard ∧ reply.status = 200)
      (completed : runpodStatus reply = "COMPLETED") (unnamed : namedKey reply = none)
  | notFetched (job : String) (reply : StudioReply) (key : String) (got : StudioBytes)
      (recorded : studioJobId = some job)
      (heard : Heard.poll job reply ∈ world.heard ∧ reply.status = 200)
      (completed : runpodStatus reply = "COMPLETED" ∧ namedKey reply = some key)
      (fetched : Heard.artifact key got ∈ world.heard) (missing : fetchedBytes got = none)
  | outOfTime (passed : OutOfTime bounds world.clock createdAt)

section

variable (sha256Hex : List UInt8 → String) (bounds : SmokeRenderBounds) (id : String)

/-- A render is succeeded on evidence alone, and failed for a cause alone. -/
def World.Truthful (world : World) : Prop :=
  ∀ row, world.render id = some row →
    (row.status = .succeeded
      → ∃ studioJobId reply key got bytes,
          Evidence sha256Hex world.heard row studioJobId reply key got bytes)
    ∧ (row.status = .failed → Cause bounds world row.studioJobId row.createdAt)

/-- The next step changes no column of a closed render. -/
def LeavesClosed (state : Rendering) (action : Action) : Prop :=
  ∀ next, step sha256Hex bounds id state action = some next →
    ∀ row, state.world.render id = some row → row.status ≠ .running
      → next.world.render id = some row

/-- The record of a render is truthful in every state of a run, and closed for good. -/
structure TruthfulRecord (state : Rendering) (run : List Action) : Prop where
  truthful
    : Everywhere (step sha256Hex bounds id)
        (fun state => state.world.Truthful sha256Hex bounds id) state run
  closed
    : Throughout (step sha256Hex bounds id) (LeavesClosed sha256Hex bounds id) state run

/-- The studio has refused the bundle or the submit. -/
def Heard.IsRefusal : Heard → Prop
  | .bundle reply => readBundleKey reply = none
  | .submit reply => readJobId reply = none
  | _ => False

instance : DecidablePred Heard.IsRefusal
  | .bundle reply => inferInstanceAs (Decidable (readBundleKey reply = none))
  | .submit reply => inferInstanceAs (Decidable (readJobId reply = none))
  | .poll .. => inferInstanceAs (Decidable False)
  | .artifact .. => inferInstanceAs (Decidable False)

/-- A poll may be given this row: the render is closed, or its studio job is recorded, or the studio
has refused, or the time of the render has run out.
-/
def World.MayPoll (world : World) (smoke : SmokeRender) : Prop :=
  smoke.status ≠ .running ∨ nonempty smoke.studioJobId ≠ none
  ∨ (∃ heard ∈ world.heard, heard.IsRefusal) ∨ OutOfTime bounds world.clock smoke.createdAt

instance (world : World) (smoke : SmokeRender) : Decidable (world.MayPoll bounds smoke) := by
  unfold World.MayPoll; infer_instance

/-- What the studio accepted is recorded on a running render. -/
def SubmitsRunning (world : World) : Ask → Prop
  | .setSmokeRenderSubmitted id _ _ =>
      ∀ row, world.render id = some row → row.status = .running
  | _ => True

instance (world : World) : DecidablePred (SubmitsRunning world)
  | .setSmokeRenderSubmitted id _ _ =>
      inferInstanceAs (Decidable (∀ row ∈ world.render id, row.status = .running))
  | .openSmokeRender _ | .getSmokeRender _ | .finishSmokeRender .. | .putCanonicalBundle
  | .submitKeyframeRender _ | .pollRender _ | .fetchArtifact _ => inferInstanceAs (Decidable True)

/-- Polls begin late enough, and the submit is recorded while the render is running. -/
def Timely (state : Rendering) : Action → Prop
  | .startNext _ => state.start.May SubmitsRunning state.world
  | .pollBegins elapsed =>
      ∀ smoke, state.world.render id = some smoke
        → (state.world.after elapsed).MayPoll bounds smoke
  | .pollNext _ _ => True

instance (state : Rendering) : DecidablePred (Timely bounds id state)
  | .startNext _ => inferInstanceAs (Decidable (state.start.May SubmitsRunning state.world))
  | .pollBegins elapsed =>
      inferInstanceAs
        (Decidable
          (∀ smoke ∈ state.world.render id, (state.world.after elapsed).MayPoll bounds smoke))
  | .pollNext _ _ => inferInstanceAs (Decidable True)

end

/-- Before the start of a render whose id is new. -/
structure Fresh (id : String) where
  tenantId : String
  modulesRelease : Option String
  world : World
  unused : world.render id = none

def Fresh.rendering {id : String} (fresh : Fresh id) : Rendering where
  world := fresh.world
  start := startSmokeRender ⟨id, fresh.tenantId, fresh.modulesRelease⟩
  polls := []

-----------------------------------------------------------------------------------------
-- What calls do to the render
-----------------------------------------------------------------------------------------

variable {sha256Hex : List UInt8 → String} {bounds : SmokeRenderBounds} {id : String}
  {world middle later : World}

/-- Time passes, and what the studio has answered stays answered. -/
structure Onward (world later : World) : Prop where
  heard : world.heard ⊆ later.heard
  clock : world.clock ≤ later.clock

/-- What the polls do to a render: its studio job stays as it is. -/
structure ByPolls (id : String) (world later : World) : Prop extends Onward world later where
  kept
    : (later.render id).map (fun row => (row.studioJobId, row.createdAt))
      = (world.render id).map fun row => (row.studioJobId, row.createdAt)

/-- What the start and the polls do to a render: a studio job that is recorded stays. -/
structure ByAny (id : String) (world later : World) : Prop extends Onward world later where
  kept
    : ∀ row, world.render id = some row → ∃ after, later.render id = some after
      ∧ (∀ studioJobId, row.studioJobId = some studioJobId → after.studioJobId = some studioJobId)
      ∧ after.createdAt = row.createdAt

/-- A step leaves closed renders, and closes a render truthfully. -/
structure Honest (sha256Hex : List UInt8 → String) (bounds : SmokeRenderBounds) (id : String)
    (world later : World) : Prop where
  closed
    : ∀ row, world.render id = some row → row.status ≠ .running → later.render id = some row
  truthful : world.Truthful sha256Hex bounds id → later.Truthful sha256Hex bounds id

theorem Onward.refl (world : World) : Onward world world :=
  ⟨fun _ member => member, le_rfl⟩

theorem Onward.trans (first : Onward world middle) (second : Onward middle later)
    : Onward world later :=
  ⟨fun _ member => second.heard (first.heard member), first.clock.trans second.clock⟩

theorem ByPolls.refl (id : String) (world : World) : ByPolls id world world :=
  ⟨.refl world, rfl⟩

theorem ByPolls.trans (first : ByPolls id world middle) (second : ByPolls id middle later)
    : ByPolls id world later :=
  ⟨first.toOnward.trans second.toOnward, second.kept.trans first.kept⟩

theorem ByAny.refl (id : String) (world : World) : ByAny id world world :=
  ⟨.refl world, fun row found => ⟨row, found, fun _ recorded => recorded, rfl⟩⟩

theorem ByAny.trans (first : ByAny id world middle) (second : ByAny id middle later)
    : ByAny id world later := by
  refine ⟨first.toOnward.trans second.toOnward, fun row found => ?_⟩
  obtain ⟨between, foundNext, job, created⟩ := first.kept row found
  obtain ⟨after, foundLast, jobLast, createdLast⟩ := second.kept between foundNext
  exact ⟨after, foundLast, fun studioJobId recorded => jobLast _ (job _ recorded),
    createdLast.trans created⟩

/-- The polls do no more than any program does. -/
theorem ByPolls.toByAny (moved : ByPolls id world later) : ByAny id world later := by
  refine ⟨moved.toOnward, fun row found => ?_⟩
  have kept := moved.kept
  rw [found] at kept
  obtain ⟨after, foundNext, same⟩ := Option.map_eq_some_iff.mp kept
  simp only [Prod.mk.injEq] at same
  obtain ⟨job, created⟩ := same
  exact ⟨after, foundNext, fun _ recorded => job.trans recorded, created⟩

/-- Evidence stays evidence. -/
theorem Evidence.kept {heard more : List Heard} {row : SmokeRender} {studioJobId key : String}
    {reply : StudioReply} {got : StudioBytes} {bytes : List UInt8}
    (evidence : Evidence sha256Hex heard row studioJobId reply key got bytes)
    (kept : heard ⊆ more)
    : Evidence sha256Hex more row studioJobId reply key got bytes :=
  { evidence with
    polled := ⟨kept evidence.polled.1, evidence.polled.2⟩
    fetched := ⟨kept evidence.fetched.1, evidence.fetched.2⟩ }

/-- A cause stays a cause while the studio job that it names stays. -/
theorem Cause.kept {job jobLater : Option String} {createdAt : Nat}
    (cause : Cause bounds world job createdAt) (onward : Onward world later)
    (kept : ∀ studioJobId, job = some studioJobId → jobLater = some studioJobId)
    : Cause bounds later jobLater createdAt := by
  cases cause with
  | bundleRefused reply heard refused => exact .bundleRefused reply (onward.heard heard) refused
  | submitRefused reply heard refused => exact .submitRefused reply (onward.heard heard) refused
  | terminal job reply recorded heard failed =>
      exact .terminal job reply (kept job recorded) ⟨onward.heard heard.1, heard.2⟩ failed
  | noArtifact job reply recorded heard completed unnamed =>
      exact .noArtifact job reply (kept job recorded) ⟨onward.heard heard.1, heard.2⟩ completed
        unnamed
  | notFetched job reply key got recorded heard completed fetched missing =>
      exact .notFetched job reply key got (kept job recorded) ⟨onward.heard heard.1, heard.2⟩
        completed (onward.heard fetched) missing
  | outOfTime passed =>
      refine .outOfTime ?_
      have clock := onward.clock
      unfold OutOfTime at passed ⊢
      omega

/-- A step that leaves the render is honest. -/
theorem honest_of_same (onward : Onward world later)
    (same : later.render id = world.render id)
    : Honest sha256Hex bounds id world later where
  closed row found _ := same.trans found
  truthful truthful := by
    intro row found
    obtain ⟨succeeded, failed⟩ := truthful row (same.symm.trans found)
    refine ⟨fun status => ?_, fun status => ?_⟩
    · obtain ⟨studioJobId, reply, key, got, bytes, evidence⟩ := succeeded status
      exact ⟨studioJobId, reply, key, got, bytes, evidence.kept onward.heard⟩
    · exact (failed status).kept onward fun _ recorded => recorded

/-- A step that leaves the render is one that polls may do. -/
theorem byPolls_of_same (onward : Onward world later)
    (same : later.render id = world.render id)
    : ByPolls id world later :=
  ⟨onward, congrArg _ same⟩

/-- Every call moves onward. -/
theorem serve_onward (bounds : SmokeRenderBounds) (world : World) (question : Ask) (input : Input)
    : Onward world (serve bounds world question input).1 := by
  have passes : Onward world (world.after input.elapsed) :=
    ⟨fun _ member => member, Nat.le_add_right _ _⟩
  have hears (heard : Heard)
      : Onward (world.after input.elapsed) ((world.after input.elapsed).hears heard) :=
    ⟨List.subset_append_left _ _, le_rfl⟩
  cases question with
  | openSmokeRender args =>
      simp only [serve]
      split
      · exact ⟨passes.heard, passes.clock⟩
      · exact passes
  | getSmokeRender id => exact passes
  | setSmokeRenderSubmitted id studioJobId bundleKey => exact ⟨passes.heard, passes.clock⟩
  | finishSmokeRender id outcome => exact ⟨passes.heard, passes.clock⟩
  | putCanonicalBundle => exact passes.trans (hears _)
  | submitKeyframeRender bundleKey => exact passes.trans (hears _)
  | pollRender studioJobId => exact passes.trans (hears _)
  | fetchArtifact key => exact passes.trans (hears _)

/-- The render after an UPDATE. -/
theorem render_update (update : Update SmokeRender.id)
    : (world.update update).render id = (world.render id).map update.onRow :=
  update.get?_apply world.db.renders id

/-- The rule for the calls of the studio: they leave the render, and what was answered has been
heard from then on.
-/
theorem hears_keeps {ρ : Type} {allowed : World → Ask → Prop}
    {rely guarantee : World → World → Prop} {question : Ask}
    {rest : question.Answer → Dialogue Ask Ask.Answer ρ} (heard : question.Answer → Heard)
    (hears
      : ∀ world input, ∃ answer, serve bounds world question input
          = ((world.after input.elapsed).hears (heard answer), answer))
    (quiet
      : ∀ {middle later}, Onward middle later → later.render id = middle.render id
        → guarantee middle later)
    (onward
      : ∀ answer {middle later}, rely world middle → Onward middle later
        → later.render id = middle.render id → heard answer ∈ later.heard
        → (rest answer).Keeps (serve bounds) allowed rely guarantee later)
    : Dialogue.Keeps (serve bounds) allowed rely guarantee (.asks question rest) world := by
  intro middle input moved _
  have passed := serve_onward bounds middle question input
  obtain ⟨answer, served⟩ := hears middle input
  rw [served] at passed ⊢
  refine ⟨quiet passed rfl, onward answer moved passed rfl ?_⟩
  exact List.mem_append_right _ List.mem_cons_self

/-- What a terminal write needs, so that the row it writes is truthful. -/
def Justified (sha256Hex : List UInt8 → String) (bounds : SmokeRenderBounds) (world : World)
    (row : SmokeRender) : SmokeOutcome → Prop
  | .succeeded artifact =>
      ∃ studioJobId reply key got bytes,
        Evidence sha256Hex world.heard
          { row with
            artifactKey := some artifact.key
            artifactBytes := some artifact.bytes
            artifactSha256 := some artifact.sha256
            artifactContentType := some artifact.contentType }
          studioJobId reply key got bytes
  | .failed _ => Cause bounds world row.studioJobId row.createdAt

/-- A terminal write does not touch the studio job or created_at. -/
theorem byPolls_finish (outcome : SmokeOutcome) (target : String) (input : Input)
    : ByPolls id world (serve bounds world (.finishSmokeRender target outcome) input).1 := by
  refine ⟨serve_onward bounds world _ input, ?_⟩
  simp only [serve, render_update, Option.map_map]
  change Option.map _ (world.render id) = _
  congr 1
  funext row
  exact Sweep.onRow_keeps _ (fun row : SmokeRender => (row.studioJobId, row.createdAt))
    (fun _ _ => by cases outcome <;> rfl) row

/-- A justified terminal write is honest: it tests that the render is still running. -/
theorem honest_finish {outcome : SmokeOutcome} {target : String} {input : Input}
    (justified
      : ∀ row, world.render id = some row → row.status = .running
        → Justified sha256Hex bounds world row outcome)
    : Honest sha256Hex bounds id world
        (serve bounds world (.finishSmokeRender target outcome) input).1 := by
  have onward := serve_onward bounds world (.finishSmokeRender target outcome) input
  generalize served : (serve bounds world (.finishSmokeRender target outcome) input).1 = later
    at onward ⊢
  have written : later.render id
      = (world.render id).map
          (Store.finishSmokeRender ((world.clock + input.elapsed) / 1000) target
            outcome).onRow := by
    rw [← served]
    exact render_update _
  constructor
  · intro row found closed
    rw [written, found, Option.map_some, Update.onRow_of_not]
    exact fun matched => closed (by simpa [Store.finishSmokeRender] using matched.2)
  · intro truthful row found
    rw [written] at found
    obtain ⟨old, earlier, became⟩ := Option.map_eq_some_iff.mp found
    rcases Update.onRow_cases (Store.finishSmokeRender ((world.clock + input.elapsed) / 1000)
      target outcome) old with same | ⟨met, set⟩
    · have unchanged := truthful old earlier
      rw [same] at became
      subst became
      refine ⟨fun status => ?_, fun status => ?_⟩
      · obtain ⟨studioJobId, reply, key, got, bytes, evidence⟩ := unchanged.1 status
        exact ⟨studioJobId, reply, key, got, bytes, evidence.kept onward.heard⟩
      · exact (unchanged.2 status).kept onward fun _ recorded => recorded
    · have running : old.status = .running := by simpa [Store.finishSmokeRender] using met
      have supported := justified old earlier running
      rw [← became, set]
      cases outcome with
      | succeeded artifact =>
          obtain ⟨studioJobId, reply, key, got, bytes, evidence⟩ := supported
          refine ⟨fun _ => ⟨studioJobId, reply, key, got, bytes, ?_⟩, fun status => by cases status⟩
          have still := evidence.kept onward.heard
          exact { still with recorded := still.recorded, stored := still.stored }
      | failed error =>
          refine ⟨(fun status => by cases status), fun _ => ?_⟩
          exact Cause.kept supported onward fun _ recorded => recorded

end ControlPlane.Smoke
