import ControlPlane.Smoke.RenderPrograms

/-! The record of a smoke render is truthful in every run in which no poll begins before the studio
job of the render is recorded, or the studio has refused it, or its time has run out. A poll that
begins earlier closes a render whose submit is still in progress.
-/

namespace ControlPlane.Smoke

open ControlPlane.Library
open ControlPlane.Store

variable {sha256Hex : List UInt8 → String} {bounds : SmokeRenderBounds} {id : String}

-----------------------------------------------------------------------------------------
-- Whole runs
-----------------------------------------------------------------------------------------

/-- What holds in every state of a timely run. -/
structure Sound (sha256Hex : List UInt8 → String) (bounds : SmokeRenderBounds) (id : String)
    (state : Rendering) : Prop where
  truthful : state.world.Truthful sha256Hex bounds id
  start
    : state.start.Keeps (serve bounds) SubmitsRunning (ByPolls id) (StartDoes sha256Hex bounds id)
        state.world
  polls
    : ∀ poll ∈ state.polls, poll.Keeps (serve bounds) Dialogue.Anything (ByAny id)
        (PollDoes sha256Hex bounds id) state.world

/-- A timely step from a sound state is honest, and leaves a sound state. -/
theorem sound_step {state next : Rendering} {action : Action}
    (sound : Sound sha256Hex bounds id state) (timely : Timely bounds id state action)
    (taken : step sha256Hex bounds id state action = some next)
    : Honest sha256Hex bounds id state.world next.world ∧ Sound sha256Hex bounds id next := by
  obtain ⟨truthful, start, polls⟩ := sound
  cases action with
  | startNext input =>
      obtain ⟨⟨world, rest⟩, served, became⟩ := Option.map_eq_some_iff.mp taken
      subst became
      obtain ⟨does, kept⟩ := start.next (.refl id) timely served
      refine ⟨does.honest, does.honest.truthful truthful, kept, fun poll member => ?_⟩
      exact (polls poll member).later .trans does.moves
  | pollBegins elapsed =>
      obtain ⟨smoke, found, became⟩ := Option.map_eq_some_iff.mp taken
      subst became
      have passed : Onward state.world (state.world.after elapsed) :=
        ⟨fun _ member => member, Nat.le_add_right _ _⟩
      have moved : ByPolls id state.world (state.world.after elapsed) :=
        byPolls_of_same passed rfl
      have honest : Honest sha256Hex bounds id state.world (state.world.after elapsed) :=
        honest_of_same passed rfl
      refine ⟨honest, honest.truthful truthful, start.later .trans moved, ?_⟩
      intro poll member
      rcases List.mem_append.mp member with earlier | begun
      · exact (polls poll earlier).later .trans moved.toByAny
      · rw [List.mem_singleton.mp begun]
        exact advanceSmokeRender_keeps found (timely smoke found)
  | pollNext place input =>
      obtain ⟨poll, there, taken⟩ := Option.bind_eq_some_iff.mp taken
      obtain ⟨⟨world, rest⟩, served, became⟩ := Option.map_eq_some_iff.mp taken
      subst became
      have member := List.mem_of_getElem? there
      obtain ⟨does, kept⟩ := (polls poll member).next (.refl id) (poll.may_anything _) served
      refine ⟨does.honest, does.honest.truthful truthful, start.later .trans does.moves, ?_⟩
      exact Dialogue.keeps_set .trans polls does.moves.toByAny kept

/-- A start whose id is new is sound. -/
theorem sound_fresh (fresh : Fresh id) : Sound sha256Hex bounds id fresh.rendering where
  truthful _ found := nomatch fresh.unused.symm.trans found
  start := startSmokeRender_keeps ⟨id, fresh.tenantId, fresh.modulesRelease⟩ fresh.unused
  polls _ member := absurd member List.not_mem_nil

/-- In every timely run the record of the render is truthful, and closed for good. -/
theorem truthful_of_timely (fresh : Fresh id) {run : List Action}
    (timely
      : Throughout (step sha256Hex bounds id) (Timely bounds id) fresh.rendering run)
    : TruthfulRecord sha256Hex bounds id fresh.rendering run := by
  have keeps (state : Rendering) (action : Action) (next : Rendering)
      (sound : Sound sha256Hex bounds id state) (timely : Timely bounds id state action)
      (taken : step sha256Hex bounds id state action = some next)
      : Sound sha256Hex bounds id next :=
    (sound_step sound timely taken).2
  constructor
  · exact everywhere_of_throughout keeps (fun _ sound => sound.truthful) (sound_fresh fresh) timely
  · refine throughout_of_throughout keeps ?_ (sound_fresh fresh) timely
    intro state action next sound timely taken other alsoTaken row found closed
    cases taken.symm.trans alsoTaken
    exact (sound_step sound timely taken).1.closed row found closed

-----------------------------------------------------------------------------------------
-- One run in time, and one with a poll that begins too early
-----------------------------------------------------------------------------------------

/-- A start for the only tenant, on an empty table. -/
def acmeStart : Fresh "smk-1" where
  tenantId := "acme"
  modulesRelease := some "v1.5.0"
  world := { db := .empty ["acme"], clock := 5000, heard := [] }
  unused := rfl

/-- The studio answers a call. -/
def answers (status : Nat) (body : List (String × Json)) : Input where
  elapsed := 100
  reply := { status, text := (Json.object body).stringify }
  got := { status := 200, bytes := some [137, 80, 78, 71], contentType := "image/png" }

/-- The digest of the only bytes that are fetched here. -/
def pngDigest (_ : List UInt8) : String :=
  "0f4636c78f65d3639ece5a064b5ae753e3408614a14fb18ab4d7540d2c248543"

/-- The status of the render, and the studio job that is recorded on it. -/
def outcome (state : Rendering) : Option (SmokeStatus × Option String) :=
  (state.world.render "smk-1").map fun row => (row.status, row.studioJobId)

/-- When the render was opened, the clock, and what the studio has answered. -/
def background (state : Rendering) : Option (Nat × Nat × List Heard) :=
  (state.world.render "smk-1").map fun row =>
    (row.createdAt, state.world.clock, state.world.heard)

/-- A poll begins after the submit is recorded, and the studio has completed the render. -/
def punctualPoll : List Action :=
  [.startNext (answers 200 []),
    .startNext (answers 201 [("ok", .bool true), ("bundleKey", .str "bundles/smoke.tar.gz")]),
    .startNext (answers 201 [("jobId", .str "film-123")]), .startNext (answers 200 []),
    .pollBegins 1000, .startNext (answers 200 []),
    .pollNext 0
      (answers 200
        [("status", .str "COMPLETED"),
          ("output",
            .object [("keyframes", .array [.object [("key", .str "clips/smoke1.png")]])])]),
    .pollNext 0 (answers 200 []), .pollNext 0 (answers 200 []), .pollNext 0 (answers 200 [])]

theorem truthful_punctualPoll
    : (exec (step pngDigest defaultSmokeBounds "smk-1") acmeStart.rendering punctualPoll).bind
        outcome = some (.succeeded, some "film-123")
      ∧ TruthfulRecord pngDigest defaultSmokeBounds "smk-1" acmeStart.rendering punctualPoll :=
  ⟨by decide +kernel, truthful_of_timely acmeStart (by decide +kernel)⟩

/-- A poll begins a second after the open, and its write lands before the studio is asked for the
bundle. The studio accepts the bundle and the render after it.
-/
def earlyPoll : List Action :=
  [.startNext (answers 200 []), .pollBegins 1000, .pollNext 0 (answers 200 []),
    .startNext (answers 201 [("ok", .bool true), ("bundleKey", .str "bundles/smoke.tar.gz")]),
    .startNext (answers 201 [("jobId", .str "film-123")])]

/-- The submit is recorded. -/
def recordsSubmit : Action :=
  .startNext (answers 200 [])

/-- The studio accepts all that it is asked, and yet a second after the open the render is closed as
failed, and the studio job that runs is recorded on it afterwards.
-/
theorem earlyPoll_untruthful
    : (¬ Everywhere (step pngDigest defaultSmokeBounds "smk-1")
          (fun state => state.world.Truthful pngDigest defaultSmokeBounds "smk-1")
          acmeStart.rendering (earlyPoll ++ [recordsSubmit]))
      ∧ ¬ Throughout (step pngDigest defaultSmokeBounds "smk-1")
          (LeavesClosed pngDigest defaultSmokeBounds "smk-1") acmeStart.rendering
          (earlyPoll ++ [recordsSubmit]) := by
  have closed : (exec (step pngDigest defaultSmokeBounds "smk-1") acmeStart.rendering
      (earlyPoll.take 3)).map (fun state => (outcome state, background state))
        = some (some (.failed, none), some (5, 6200, [])) := by
    decide +kernel
  have pending : ((exec (step pngDigest defaultSmokeBounds "smk-1") acmeStart.rendering
      earlyPoll).bind outcome) = some (.failed, none) := by
    decide +kernel
  have recorded : ((exec (step pngDigest defaultSmokeBounds "smk-1") acmeStart.rendering
      (earlyPoll ++ [recordsSubmit])).bind outcome) = some (.failed, some "film-123") := by
    decide +kernel
  constructor
  · intro truthful
    obtain ⟨state, reached, looked⟩ := Option.map_eq_some_iff.mp closed
    simp only [Prod.mk.injEq, outcome, background, Option.map_eq_some_iff] at looked
    obtain ⟨⟨row, found, status, job⟩, other, foundAgain, created, clock, heard⟩ := looked
    cases found.symm.trans foundAgain
    have cut : earlyPoll ++ [recordsSubmit]
        = earlyPoll.take 3 ++ (earlyPoll.drop 3 ++ [recordsSubmit]) := rfl
    have cause := (everywhere_iff_prefixes.mp truthful _ _ state cut reached row found).2 status
    cases cause with
    | bundleRefused reply said => exact nomatch heard ▸ said
    | submitRefused reply said => exact nomatch heard ▸ said
    | terminal studioJobId reply known => exact nomatch job.symm.trans known
    | noArtifact studioJobId reply known => exact nomatch job.symm.trans known
    | notFetched studioJobId reply key got known => exact nomatch job.symm.trans known
    | outOfTime passed =>
        rw [clock, created] at passed
        exact absurd passed (by decide)
  · intro kept
    obtain ⟨before, arrived, unrecorded⟩ := Option.bind_eq_some_iff.mp pending
    obtain ⟨final, reached, later⟩ := Option.bind_eq_some_iff.mp recorded
    obtain ⟨middle, sameMiddle, onward⟩ := exec_append.mp reached
    cases arrived.symm.trans sameMiddle
    obtain ⟨next, taken, ended⟩ := exec_cons.mp onward
    cases ended
    have leaves := ((throughout_cons taken).mp (throughout_append kept arrived).2).1
    simp only [outcome, Option.map_eq_some_iff, Prod.mk.injEq] at unrecorded later
    obtain ⟨row, found, status, job⟩ := unrecorded
    obtain ⟨after, foundLater, _, jobLater⟩ := later
    have still := leaves _ taken row found (by simp [status])
    cases foundLater.symm.trans still
    exact nomatch job.symm.trans jobLater

end ControlPlane.Smoke
