import ControlPlane.Smoke.RenderRecord

/-! The start of a smoke render and the polls of it keep to what they guarantee: one rule for each
kind of call, and the programs by these rules.
-/

namespace ControlPlane.Smoke

open ControlPlane.Library
open ControlPlane.Store

variable {sha256Hex : List UInt8 → String} {bounds : SmokeRenderBounds} {id : String}
  {world middle later : World}

-----------------------------------------------------------------------------------------
-- The polls
-----------------------------------------------------------------------------------------

/-- What a poll guarantees of each of its calls. -/
structure PollDoes (sha256Hex : List UInt8 → String) (bounds : SmokeRenderBounds) (id : String)
    (world later : World) : Prop where
  moves : ByPolls id world later
  honest : Honest sha256Hex bounds id world later

/-- The row that a poll was given, as it may have become. -/
def Given (id : String) (smoke : SmokeRender) (world : World) : Prop :=
  ∃ row, world.render id = some row
    ∧ (∀ studioJobId, smoke.studioJobId = some studioJobId → row.studioJobId = some studioJobId)
    ∧ row.createdAt = smoke.createdAt

theorem Given.kept {smoke : SmokeRender} (given : Given id smoke world)
    (moved : ByAny id world later)
    : Given id smoke later := by
  obtain ⟨row, found, job, created⟩ := given
  obtain ⟨after, foundNext, jobNext, createdNext⟩ := moved.kept row found
  exact ⟨after, foundNext, fun _ recorded => jobNext _ (job _ recorded),
    createdNext.trans created⟩

/-- A call that leaves the render is one that polls make. -/
theorem pollDoes_of_same (onward : Onward world later)
    (same : later.render id = world.render id)
    : PollDoes sha256Hex bounds id world later :=
  ⟨byPolls_of_same onward same, honest_of_same onward same⟩

theorem reread_keeps (smoke : SmokeRender)
    : (reread smoke).Keeps (serve bounds) Dialogue.Anything (ByAny id)
        (PollDoes sha256Hex bounds id) world := by
  intro middle input _ _
  exact ⟨pollDoes_of_same (serve_onward bounds middle _ input) rfl, trivial⟩

/-- A poll that closes the render as failed has a cause for it. -/
theorem fail_keeps {smoke : SmokeRender} (message : String) (given : Given id smoke world)
    (cause : Cause bounds world smoke.studioJobId smoke.createdAt)
    : (fail smoke message).Keeps (serve bounds) Dialogue.Anything (ByAny id)
        (PollDoes sha256Hex bounds id) world := by
  intro middle input moved _
  refine ⟨⟨byPolls_finish _ _ _, honest_finish fun row found _ => ?_⟩, reread_keeps smoke⟩
  obtain ⟨now, foundNow, job, created⟩ := given.kept moved
  cases foundNow.symm.trans found
  change Cause bounds middle row.studioJobId row.createdAt
  rw [created]
  exact cause.kept moved.toOnward job

theorem nonempty_eq_some {text : Option String} {value : String}
    (present : nonempty text = some value)
    : text = some value :=
  (Option.filter_eq_some_iff.mp present).1

/-- A refusal is a cause. -/
theorem cause_of_refusal {heard : Heard} (member : heard ∈ world.heard) (refused : heard.IsRefusal)
    (job : Option String) (createdAt : Nat)
    : Cause bounds world job createdAt := by
  cases heard with
  | bundle reply => exact .bundleRefused reply member refused
  | submit reply => exact .submitRefused reply member refused
  | poll studioJobId reply => exact refused.elim
  | artifact key got => exact refused.elim

/-- The rule for asking the studio about a render: what it answers has been heard from then on. -/
theorem pollRender_keeps {smoke : SmokeRender} {studioJobId : String}
    {rest : StudioReply → Dialogue Ask Ask.Answer SmokeRender} (given : Given id smoke world)
    (onward
      : ∀ reply later, Given id smoke later → Heard.poll studioJobId reply ∈ later.heard
        → (rest reply).Keeps (serve bounds) Dialogue.Anything (ByAny id)
            (PollDoes sha256Hex bounds id) later)
    : Dialogue.Keeps (serve bounds) Dialogue.Anything (ByAny id) (PollDoes sha256Hex bounds id)
        (.asks (.pollRender studioJobId) rest) world := by
  refine hears_keeps (.poll studioJobId) (fun _ input => ⟨input.reply, rfl⟩)
    pollDoes_of_same fun reply _ _ moved passed same heard => onward reply _ ?_ heard
  exact (given.kept moved).kept (byPolls_of_same passed same).toByAny

/-- The rule for fetching an artifact: what was heard before is not forgotten. -/
theorem fetchArtifact_keeps {smoke : SmokeRender} {key : String}
    {rest : StudioBytes → Dialogue Ask Ask.Answer SmokeRender} (given : Given id smoke world)
    (onward
      : ∀ got later, Given id smoke later → world.heard ⊆ later.heard
        → Heard.artifact key got ∈ later.heard
        → (rest got).Keeps (serve bounds) Dialogue.Anything (ByAny id)
            (PollDoes sha256Hex bounds id) later)
    : Dialogue.Keeps (serve bounds) Dialogue.Anything (ByAny id) (PollDoes sha256Hex bounds id)
        (.asks (.fetchArtifact key) rest) world := by
  refine hears_keeps (.artifact key) (fun _ input => ⟨input.got, rfl⟩)
    pollDoes_of_same fun got _ _ moved passed same heard => onward got _ ?_ ?_ heard
  · exact (given.kept moved).kept (byPolls_of_same passed same).toByAny
  · exact (moved.toOnward.trans passed).heard

/-- A poll that closes the render as succeeded has its evidence. -/
theorem succeed_keeps {smoke : SmokeRender} {studioJobId key : String} {reply : StudioReply}
    {got : StudioBytes} {bytes : List UInt8} (given : Given id smoke world)
    (job : smoke.studioJobId = some studioJobId)
    (polled : Heard.poll studioJobId reply ∈ world.heard ∧ reply.status = 200)
    (completed : runpodStatus reply = "COMPLETED" ∧ namedKey reply = some key)
    (heard : Heard.artifact key got ∈ world.heard) (fetched : fetchedBytes got = some bytes)
    : Dialogue.Keeps (serve bounds) Dialogue.Anything (ByAny id) (PollDoes sha256Hex bounds id)
        (.asks
          (.finishSmokeRender smoke.id
            (.succeeded
              { key
                bytes := bytes.length
                sha256 := sha256Hex bytes
                contentType := got.contentType }))
          fun _ => reread smoke) world := by
  intro middle input moved _
  refine ⟨⟨byPolls_finish _ _ _, honest_finish fun row found _ => ?_⟩, reread_keeps smoke⟩
  obtain ⟨now, foundNow, jobNow, _⟩ := given.kept moved
  cases foundNow.symm.trans found
  have status : got.status = 200 := by
    by_contra other
    rw [fetchedBytes, if_neg other] at fetched
    exact nomatch fetched
  rw [fetchedBytes, if_pos status] at fetched
  obtain ⟨present, notEmpty⟩ := Option.filter_eq_some_iff.mp fetched
  exact ⟨studioJobId, reply, key, got, bytes,
    { recorded := jobNow studioJobId job
      polled := ⟨moved.heard polled.1, polled.2⟩
      completed := completed
      fetched := ⟨moved.heard heard, status⟩
      present := ⟨present, of_decide_eq_true notEmpty⟩
      stored := ⟨rfl, rfl, rfl, rfl⟩ }⟩

/-- A poll that is given the row late enough keeps to what polls do, each call in turn. -/
theorem advanceSmokeRender_keeps {smoke : SmokeRender} (found : world.render id = some smoke)
    (may : world.MayPoll bounds smoke)
    : (advanceSmokeRender sha256Hex bounds world.clock smoke).Keeps (serve bounds) Dialogue.Anything
        (ByAny id) (PollDoes sha256Hex bounds id) world := by
  have given : Given id smoke world := ⟨smoke, found, fun _ recorded => recorded, rfl⟩
  unfold advanceSmokeRender
  by_cases closed : smoke.status ≠ .running
  · rw [if_pos closed]
    trivial
  rw [if_neg closed]
  cases recorded : nonempty smoke.studioJobId with
  | none =>
      refine fail_keeps _ given ?_
      rcases may with ended | job | ⟨heard, member, refused⟩ | passed
      · exact absurd ended closed
      · exact absurd recorded job
      · exact cause_of_refusal member refused _ _
      · exact .outOfTime passed
  | some studioJobId =>
      have job := nonempty_eq_some recorded
      by_cases late : OutOfTime bounds world.clock smoke.createdAt
      · simp only [if_pos late]
        exact fail_keeps _ given (.outOfTime late)
      simp only [if_neg late, Dialogue.ask_bind]
      refine pollRender_keeps given fun reply world given polled => ?_
      by_cases unavailable : reply.status ≠ 200
      · rw [if_pos unavailable]
        trivial
      rw [if_neg unavailable]
      have answered := And.intro polled (not_not.mp unavailable)
      by_cases failed : IsTerminalFailure (runpodStatus reply)
      · rw [if_pos failed]
        exact fail_keeps _ given (.terminal studioJobId reply job answered failed)
      rw [if_neg failed]
      by_cases running : runpodStatus reply ≠ "COMPLETED"
      · rw [if_pos running]
        trivial
      rw [if_neg running]
      have completed := not_not.mp running
      cases named : namedKey reply with
      | none =>
          exact fail_keeps _ given
            (.noArtifact studioJobId reply job answered completed named)
      | some key =>
          refine fetchArtifact_keeps given fun got world given heard fetched => ?_
          have still := And.intro (heard answered.1) answered.2
          cases present : fetchedBytes got with
          | none =>
              exact fail_keeps _ given
                (.notFetched studioJobId reply key got job still ⟨completed, named⟩ fetched present)
          | some bytes => exact succeed_keeps given job still ⟨completed, named⟩ fetched present

-----------------------------------------------------------------------------------------
-- The start
-----------------------------------------------------------------------------------------

/-- What the start guarantees of each of its calls. -/
structure StartDoes (sha256Hex : List UInt8 → String) (bounds : SmokeRenderBounds) (id : String)
    (world later : World) : Prop where
  moves : ByAny id world later
  honest : Honest sha256Hex bounds id world later

/-- The render is there, and no studio job is recorded on it. -/
def Pending (id : String) (world : World) : Prop :=
  ∃ row, world.render id = some row ∧ row.studioJobId = none

theorem Pending.kept (pending : Pending id world) (moved : ByPolls id world later)
    : Pending id later := by
  obtain ⟨row, found, unrecorded⟩ := pending
  have kept := moved.kept
  rw [found] at kept
  obtain ⟨after, foundNext, same⟩ := Option.map_eq_some_iff.mp kept
  simp only [Prod.mk.injEq] at same
  exact ⟨after, foundNext, same.1.trans unrecorded⟩

theorem startDoes_of_same (onward : Onward world later)
    (same : later.render id = world.render id)
    : StartDoes sha256Hex bounds id world later :=
  ⟨(byPolls_of_same onward same).toByAny, honest_of_same onward same⟩

/-- An open inserts its row, or leaves the table. -/
theorem openSmokeRender_cases {db opened : SmokeDb} {now : Nat} {args : OpenSmokeRender}
    {returned : Option SmokeRender}
    (ran : db.openSmokeRender now args bounds = .ok (opened, returned))
    : (returned = none ∧ opened = db)
      ∨ (returned = some (args.row now) ∧ opened.renders.get? args.id = some (args.row now)) := by
  unfold SmokeDb.openSmokeRender at ran
  split at ran
  · split at ran
    · split at ran
      · next newId _ =>
          cases ran
          right
          refine ⟨rfl, ?_⟩
          rw [Keyed.get?_insert]
          exact if_pos rfl
      · cases ran
    · cases ran
  · cases ran
    exact .inl ⟨rfl, rfl⟩

/-- A start that the studio refused closes its render for that cause. -/
theorem refused_keeps {smoke : SmokeRender} {message : String} {status : Nat}
    (cause : ∀ job createdAt, Cause bounds world job createdAt)
    : Dialogue.Keeps (serve bounds) SubmitsRunning (ByPolls id) (StartDoes sha256Hex bounds id)
        (.asks (.finishSmokeRender smoke.id (.failed message)) fun _ =>
          .returns
            (.ok (.studioRefused smoke message status)
              : Except ConstraintViolation SmokeRenderStart))
        world := by
  intro middle input moved _
  refine ⟨⟨(byPolls_finish _ _ _).toByAny, honest_finish fun row found _ => ?_⟩, trivial⟩
  exact (cause row.studioJobId row.createdAt).kept moved.toOnward fun _ recorded => recorded

/-- Recording the studio job of a running render changes nothing else that a poll looks at. -/
theorem startDoes_submitted {studioJobId bundleKey : String} {input : Input}
    (pending : Pending id world)
    (running : SubmitsRunning world (.setSmokeRenderSubmitted id studioJobId bundleKey))
    : StartDoes sha256Hex bounds id world
        (serve bounds world (.setSmokeRenderSubmitted id studioJobId bundleKey) input).1 := by
  have onward := serve_onward bounds world (.setSmokeRenderSubmitted id studioJobId bundleKey) input
  obtain ⟨row, found, unrecorded⟩ := pending
  have isRunning := running row found
  have written
      : (serve bounds world (.setSmokeRenderSubmitted id studioJobId bundleKey) input).1.render id
        = some { row with
            studioJobId := some studioJobId
            bundleKey := some bundleKey
            updatedAt := (world.clock + input.elapsed) / 1000 } :=
    Update.get?_apply_of_match
      (Store.setSmokeRenderSubmitted ((world.clock + input.elapsed) / 1000) id studioJobId
        bundleKey)
      found rfl
  refine ⟨⟨onward, fun other same => ?_⟩, fun other same closed => ?_, fun _ other same => ?_⟩
  · cases found.symm.trans same
    refine ⟨_, written, fun job recorded => ?_, rfl⟩
    exact nomatch unrecorded.symm.trans recorded
  · cases found.symm.trans same
    exact absurd isRunning closed
  · cases written.symm.trans same
    refine ⟨fun status => ?_, fun status => ?_⟩
    · exact nomatch isRunning.symm.trans status
    · exact nomatch isRunning.symm.trans status

/-- The rule for the open: what goes on from a row that it returned goes on with that row stored. -/
theorem openSmokeRender_keeps {args : OpenSmokeRender}
    {rest : Except ConstraintViolation (Option SmokeRender)
      → Dialogue Ask Ask.Answer (Except ConstraintViolation SmokeRenderStart)}
    (unused : world.render args.id = none)
    (thrown
      : ∀ violation later, (rest (.error violation)).Keeps (serve bounds) SubmitsRunning
          (ByPolls args.id) (StartDoes sha256Hex bounds args.id) later)
    (denied
      : ∀ later, (rest (.ok none)).Keeps (serve bounds) SubmitsRunning (ByPolls args.id)
          (StartDoes sha256Hex bounds args.id) later)
    (opened
      : ∀ smoke later, smoke.id = args.id → Pending args.id later
        → (rest (.ok (some smoke))).Keeps (serve bounds) SubmitsRunning (ByPolls args.id)
            (StartDoes sha256Hex bounds args.id) later)
    : Dialogue.Keeps (serve bounds) SubmitsRunning (ByPolls args.id)
        (StartDoes sha256Hex bounds args.id) (.asks (.openSmokeRender args) rest) world := by
  intro middle input moved _
  have unusedNow : middle.render args.id = none := by
    have kept := moved.kept
    rw [unused] at kept
    exact Option.map_eq_none_iff.mp kept
  have onward := serve_onward bounds middle (.openSmokeRender args) input
  simp only [serve] at onward ⊢
  cases ran : (middle.after input.elapsed).db.openSmokeRender
      ((middle.after input.elapsed).clock / 1000) args bounds with
  | error violation =>
      rw [ran] at onward
      exact ⟨startDoes_of_same onward rfl, thrown violation _⟩
  | ok inserted =>
      obtain ⟨db, returned⟩ := inserted
      rw [ran] at onward
      rcases openSmokeRender_cases ran with ⟨nothing, same⟩ | ⟨row, stored⟩
      · subst nothing same
        exact ⟨startDoes_of_same onward rfl, denied _⟩
      · subst row
        refine ⟨⟨⟨onward, ?_⟩, ?_, ?_⟩, opened _ _ rfl ⟨_, stored, rfl⟩⟩
        · intro row found
          cases unusedNow.symm.trans found
        · intro row found
          cases unusedNow.symm.trans found
        · intro _ row found
          cases stored.symm.trans found
          exact ⟨(fun status => by cases status), fun status => by cases status⟩

/-- A start keeps to what starts do, each call in turn. -/
theorem startSmokeRender_keeps (args : OpenSmokeRender) (unused : world.render args.id = none)
    : (startSmokeRender args).Keeps (serve bounds) SubmitsRunning (ByPolls args.id)
        (StartDoes sha256Hex bounds args.id) world := by
  simp only [startSmokeRender, Dialogue.ask_bind]
  refine openSmokeRender_keeps unused (fun _ _ => trivial) (fun _ => trivial) ?_
  intro smoke world same pending
  refine hears_keeps .bundle (fun _ input => ⟨input.reply, rfl⟩) startDoes_of_same ?_
  intro bundle _ world moved passed unchanged heard
  have pending := (pending.kept moved).kept (byPolls_of_same passed unchanged)
  cases refused : readBundleKey bundle with
  | none => exact refused_keeps fun _ _ => .bundleRefused bundle heard refused
  | some bundleKey =>
      refine hears_keeps .submit (fun _ input => ⟨input.reply, rfl⟩)
        startDoes_of_same ?_
      intro submit _ world moved passed unchanged heard
      have pending := (pending.kept moved).kept (byPolls_of_same passed unchanged)
      cases unaccepted : readJobId submit with
      | none => exact refused_keeps fun _ _ => .submitRefused submit heard unaccepted
      | some studioJobId =>
          intro middle input moved running
          rw [same] at running ⊢
          refine ⟨startDoes_submitted (pending.kept moved) running, ?_⟩
          intro later input _ _
          exact ⟨startDoes_of_same (serve_onward bounds later _ input) rfl, trivial⟩

end ControlPlane.Smoke
