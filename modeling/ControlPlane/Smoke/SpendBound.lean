import ControlPlane.Library.SlidingWindows
import ControlPlane.Store.SmokeRenders

/-! The spend bounds of the smoke renders hold over whole runs of calls, and so does the first
terminal write of each render.
-/

namespace ControlPlane.Smoke

open ControlPlane.Library
open ControlPlane.Store

/-- What no call changes of a row. -/
def opening (render : SmokeRender) : String × String × Nat :=
  (render.id, render.tenantId, render.createdAt)

/-- What a terminal write decides. -/
def ending (render : SmokeRender)
    : SmokeStatus × (Option String × Option Nat × Option String × Option String) × Option String
        × Option Nat :=
  (render.status,
    (render.artifactKey, render.artifactBytes, render.artifactSha256,
      render.artifactContentType),
    render.errorMessage, render.finishedAt)

/-- The four artifact columns are filled exactly in a succeeded row. -/
structure ArtifactIffSucceeded (render : SmokeRender) : Prop where
  key : render.artifactKey ≠ none ↔ render.status = .succeeded
  bytes : render.artifactBytes ≠ none ↔ render.status = .succeeded
  sha256 : render.artifactSha256 ≠ none ↔ render.status = .succeeded
  contentType : render.artifactContentType ≠ none ↔ render.status = .succeeded

/-- An open that returned a row was admitted, and inserted it. -/
theorem opens_eq_some {db : SmokeDb} {bounds : SmokeRenderBounds} {call : Nat × SmokeCall}
    {render : SmokeRender} (opened : db.opens bounds call = some render)
    : db.Admits render.createdAt render.tenantId bounds
      ∧ (db.step bounds call).renders.rows = db.renders.rows ++ [render]
      ∧ ∃ args : OpenSmokeRender, render = args.row call.1 := by
  obtain ⟨now, called⟩ := call
  cases called with
  | openSmokeRender args =>
      simp only [SmokeDb.opens, SmokeDb.step, SmokeCall.run, SmokeDb.openSmokeRender]
        at opened ⊢
      split at opened
      · next ran made =>
          split at made
          · next admits =>
              split at made
              · split at made
                · cases made
                  cases opened
                  exact ⟨admits, rfl, args, rfl⟩
                · cases made
              · cases made
          · cases made
            cases opened
      · cases opened
  | finishSmokeRender id outcome => cases opened
  | setSmokeRenderSubmitted id studioJobId bundleKey => cases opened

/-- An open that returned nothing changed nothing. -/
theorem step_eq_self_of_refused {db : SmokeDb} {bounds : SmokeRenderBounds} {now : Nat}
    {args : OpenSmokeRender} (refused : db.opens bounds (now, .openSmokeRender args) = none)
    : db.step bounds (now, .openSmokeRender args) = db := by
  simp only [SmokeDb.opens, SmokeDb.step, SmokeCall.run, SmokeDb.openSmokeRender] at refused ⊢
  split at refused
  · next ran made =>
      split at made
      · split at made
        · split at made
          · cases made
            cases refused
          · cases made
        · cases made
      · cases made
        rfl
  · rfl

/-- What a call does to the table: an open appends what it returned, and the other two are
updates.
-/
theorem step_cases (db : SmokeDb) (bounds : SmokeRenderBounds) (call : Nat × SmokeCall)
    : (db.step bounds call).renders.rows = db.renders.rows ++ (db.opens bounds call).toList
      ∨ db.opens bounds call = none
        ∧ ((∃ id outcome, (db.step bounds call).renders
              = (Store.finishSmokeRender call.1 id outcome).apply db.renders)
          ∨ ∃ id studioJobId bundleKey, (db.step bounds call).renders
              = (Store.setSmokeRenderSubmitted call.1 id studioJobId bundleKey).apply
                  db.renders) := by
  obtain ⟨now, called⟩ := call
  cases called with
  | openSmokeRender args =>
      left
      cases answer : db.opens bounds (now, .openSmokeRender args) with
      | none => simp [step_eq_self_of_refused answer]
      | some render => exact (opens_eq_some answer).2.1
  | finishSmokeRender id outcome => exact .inr ⟨rfl, .inl ⟨id, outcome, rfl⟩⟩
  | setSmokeRenderSubmitted id studioJobId bundleKey =>
      exact .inr ⟨rfl, .inr ⟨id, studioJobId, bundleKey, rfl⟩⟩

/-- No update touches the opening of a row, and so a call appends the openings it returns. -/
theorem opening_step (db : SmokeDb) (bounds : SmokeRenderBounds) (call : Nat × SmokeCall)
    : (db.step bounds call).renders.rows.map opening
      = db.renders.rows.map opening
        ++ (db.opens bounds call).toList.map opening := by
  rcases step_cases db bounds call with appended | ⟨nothing, updated⟩
  · rw [appended, List.map_append]
  · rw [nothing, Option.toList_none, List.map_nil, List.append_nil]
    rcases updated with ⟨id, outcome, finished⟩ | ⟨id, studioJobId, bundleKey, submitted⟩
    · rw [finished]
      refine Sweep.map_onRow _ opening (fun row _ => ?_) db.renders.rows
      cases outcome <;> rfl
    · rw [submitted]
      exact Sweep.map_onRow _ opening (fun _ _ => rfl) db.renders.rows

/-- The table holds the renders that the run opened, in the order they were opened, by
induction on the last call.
-/
theorem opening_after (tenants : List String) (bounds : SmokeRenderBounds) (run : SmokeRun)
    : ((SmokeDb.empty tenants).after bounds run).renders.rows.map opening
      = ((SmokeDb.empty tenants).opened bounds run).map opening := by
  induction run using List.reverseRecOn with
  | nil => rfl
  | append_singleton sofar call ih =>
      rw [SmokeDb.after_snoc, opening_step, ih, SmokeDb.opened_append]
      simp [SmokeDb.opened]

/-- A row with the opening of each opened render is in the table. -/
theorem exists_row_of_opened {tenants : List String} {bounds : SmokeRenderBounds}
    {run : SmokeRun} {render : SmokeRender}
    (opened : render ∈ (SmokeDb.empty tenants).opened bounds run)
    : ∃ row ∈ ((SmokeDb.empty tenants).after bounds run).renders.rows,
        row.tenantId = render.tenantId ∧ row.createdAt = render.createdAt := by
  have recorded := List.mem_map_of_mem (f := opening) opened
  rw [← opening_after] at recorded
  obtain ⟨row, member, same⟩ := List.mem_map.mp recorded
  simp only [opening, Prod.mk.injEq] at same
  obtain ⟨_, sameTenant, sameTime⟩ := same
  exact ⟨row, member, sameTenant, sameTime⟩

/-- A count that looks at creation times alone counts the opened renders. -/
theorem countP_opened (tenants : List String) (bounds : SmokeRenderBounds) (run : SmokeRun)
    (test : Nat → Bool)
    : ((SmokeDb.empty tenants).opened bounds run).countP (fun render => test render.createdAt)
      = ((SmokeDb.empty tenants).after bounds run).renders.rows.countP
          fun row => test row.createdAt := by
  have counted : ∀ renders : List SmokeRender,
      renders.countP (fun render => test render.createdAt)
        = (renders.map opening).countP fun opened => test opened.2.2 := by
    intro renders
    rw [List.countP_map]
    rfl
  rw [counted, ← opening_after, ← counted]

/-- Two renders of a tenant are opened a cooldown apart, by induction on the last call. -/
theorem opened_cooldown (tenants : List String) (bounds : SmokeRenderBounds) (run : SmokeRun)
    : ((SmokeDb.empty tenants).opened bounds run).Pairwise fun first second =>
        first.tenantId = second.tenantId
        → first.createdAt + bounds.cooldownSeconds ≤ second.createdAt := by
  induction run using List.reverseRecOn with
  | nil => exact .nil
  | append_singleton sofar call ih =>
      rw [SmokeDb.opened_append, SmokeDb.opened, SmokeDb.opened, List.append_nil,
        List.pairwise_append]
      refine ⟨ih, ?_, ?_⟩
      · cases ((SmokeDb.empty tenants).after bounds sofar).opens bounds call with
        | none => exact .nil
        | some render => exact List.pairwise_singleton _ render
      · intro first before second now same
        rw [Option.mem_toList] at now
        obtain ⟨row, member, sameTenant, sameTime⟩ := exists_row_of_opened before
        have cooled := (opens_eq_some now).1.2.1
        rw [← sameTime]
        refine Nat.not_lt.mp fun within => cooled ⟨row, member, sameTenant.trans same, within⟩

/-- Each open counts the renders of the day before it, by induction on the last call. -/
theorem opened_trailingBelow (tenants : List String) (bounds : SmokeRenderBounds)
    (run : SmokeRun)
    : TrailingBelow SmokeRender.createdAt smokeCapWindowSeconds bounds.dailyCap
        ((SmokeDb.empty tenants).opened bounds run) := by
  induction run using List.reverseRecOn with
  | nil =>
      intro before last after cut
      simp [SmokeDb.opened] at cut
  | append_singleton sofar call ih =>
      rw [SmokeDb.opened_append, SmokeDb.opened, SmokeDb.opened, List.append_nil]
      cases now : ((SmokeDb.empty tenants).after bounds sofar).opens bounds call with
      | none => simpa using ih
      | some render =>
          refine ih.snoc ?_
          rw [countP_opened tenants bounds sofar fun time =>
            render.createdAt < time + smokeCapWindowSeconds]
          have trailing := (opens_eq_some now).1.2.2
          refine lt_of_eq_of_lt (List.countP_congr fun row _ => ?_) trailing
          exact decide_eq_true_iff.trans decide_eq_true_iff.symm

/-- A terminal write does not match a terminal row, and the other calls leave what it decided. -/
theorem ending_step {db : SmokeDb} (bounds : SmokeRenderBounds) (call : Nat × SmokeCall)
    {row : SmokeRender} (member : row ∈ db.renders.rows) (terminal : row.status ≠ .running)
    : ∃ later ∈ (db.step bounds call).renders.rows, later.id = row.id
        ∧ ending later = ending row := by
  rcases step_cases db bounds call with appended | ⟨_, updated⟩
  · exact ⟨row, by simp [appended, member], rfl, rfl⟩
  · rcases updated with ⟨id, outcome, finished⟩ | ⟨id, studioJobId, bundleKey, submitted⟩
    · have found := Keyed.get?_of_mem member
      have kept := (Store.finishSmokeRender call.1 id outcome).get?_apply_of_not found
        fun matched => terminal (by simpa [Store.finishSmokeRender] using matched.2)
      rw [finished]
      exact ⟨row, Keyed.get?_mem kept, rfl, rfl⟩
    · rw [submitted]
      refine ⟨_, Sweep.mem_apply.mpr ⟨row, member, rfl⟩, ?_, ?_⟩
      · exact Sweep.onRow_keeps _ SmokeRender.id (fun _ _ => rfl) row
      · exact Sweep.onRow_keeps _ ending (fun _ _ => rfl) row

/-- What a terminal write decided stays, by induction on the last call. -/
theorem ending_after {db : SmokeDb} {bounds : SmokeRenderBounds} {row : SmokeRender}
    (later : SmokeRun) (member : row ∈ db.renders.rows) (terminal : row.status ≠ .running)
    : ∃ final ∈ (db.after bounds later).renders.rows, final.id = row.id
        ∧ ending final = ending row := by
  induction later using List.reverseRecOn with
  | nil => exact ⟨row, member, rfl, rfl⟩
  | append_singleton sofar call ih =>
      obtain ⟨middle, present, sameId, sameEnding⟩ := ih
      have sameStatus : middle.status = row.status := congrArg Prod.fst sameEnding
      rw [SmokeDb.after_snoc]
      obtain ⟨final, reached, finalId, finalEnding⟩ :=
        ending_step bounds call present (sameStatus ▸ terminal)
      exact ⟨final, reached, finalId.trans sameId, finalEnding.trans sameEnding⟩

/-- A terminal write leaves every row that is terminal already. -/
theorem finish_keeps_terminal {db : SmokeDb} {bounds : SmokeRenderBounds} {now : Nat}
    {id : String} {outcome : SmokeOutcome} {row : SmokeRender} (member : row ∈ db.renders.rows)
    (terminal : row.status ≠ .running)
    : row ∈ (db.step bounds (now, .finishSmokeRender id outcome)).renders.rows := by
  have found := Keyed.get?_of_mem member
  exact Keyed.get?_mem ((Store.finishSmokeRender now id outcome).get?_apply_of_not found
    fun matched => terminal (by simpa [Store.finishSmokeRender] using matched.2))

/-- A terminal write fills the artifact columns when it writes succeeded. -/
theorem artifact_finish {now : Nat} {id : String} {outcome : SmokeOutcome} {row : SmokeRender}
    (running : row.status = .running) (agrees : ArtifactIffSucceeded row)
    : ArtifactIffSucceeded ((Store.finishSmokeRender now id outcome).set row) := by
  cases outcome with
  | succeeded artifact => constructor <;> simp [Store.finishSmokeRender]
  | failed error =>
      obtain ⟨key, bytes, sha256, contentType⟩ := agrees
      rw [running] at key bytes sha256 contentType
      constructor <;> simp_all [Store.finishSmokeRender]

/-- A render is opened without an artifact. -/
theorem artifact_opened {db : SmokeDb} {bounds : SmokeRenderBounds} {call : Nat × SmokeCall}
    {render : SmokeRender} (opened : db.opens bounds call = some render)
    : ArtifactIffSucceeded render := by
  obtain ⟨_, _, args, inserted⟩ := opens_eq_some opened
  subst inserted
  constructor <;> simp [OpenSmokeRender.row]

/-- The artifact columns agree with the status in every row, by induction on the last call. -/
theorem artifact_after (tenants : List String) (bounds : SmokeRenderBounds) (run : SmokeRun)
    : ∀ row ∈ ((SmokeDb.empty tenants).after bounds run).renders.rows,
        ArtifactIffSucceeded row := by
  induction run using List.reverseRecOn with
  | nil => exact fun row member => absurd member List.not_mem_nil
  | append_singleton sofar call ih =>
      intro row member
      rw [SmokeDb.after_snoc] at member
      rcases step_cases _ bounds call with appended | ⟨_, updated⟩
      · rw [appended] at member
        rcases List.mem_append.mp member with earlier | now
        · exact ih row earlier
        · exact artifact_opened (Option.mem_toList.mp now)
      · rcases updated with ⟨id, outcome, finished⟩ | ⟨id, studioJobId, bundleKey, submitted⟩
        · rw [finished] at member
          rcases Update.mem_apply_cases member with ⟨old, earlier, _, met, became⟩ | earlier
          · have running : old.status = .running := by
              simpa [Store.finishSmokeRender] using met
            rw [became]
            exact artifact_finish running (ih old earlier)
          · exact ih row earlier
        · rw [submitted] at member
          rcases Update.mem_apply_cases member with ⟨old, earlier, _, _, became⟩ | earlier
          · obtain ⟨key, bytes, sha256, contentType⟩ := ih old earlier
            rw [became]
            exact ⟨key, bytes, sha256, contentType⟩
          · exact ih row earlier

/-- The spend bound of the smoke renders over a run of calls from the empty table. -/
structure SpendBound (tenants : List String) (bounds : SmokeRenderBounds) (run : SmokeRun)
    : Prop where
  cooldown
    : ((SmokeDb.empty tenants).opened bounds run).Pairwise fun first second =>
        first.tenantId = second.tenantId
        → first.createdAt + bounds.cooldownSeconds ≤ second.createdAt
  inFlight
    : ∀ sofar call rest render, run = sofar ++ call :: rest
      → ((SmokeDb.empty tenants).after bounds sofar).opens bounds call = some render
      → ∀ other ∈ ((SmokeDb.empty tenants).after bounds sofar).renders.rows,
          other.tenantId = render.tenantId → other.status = .running
          → other.createdAt + bounds.inFlightSeconds ≤ render.createdAt
  dailyCap
    : ∀ start, ((SmokeDb.empty tenants).opened bounds run).countP
        (fun render => start ≤ render.createdAt ∧ render.createdAt < start + 86400)
      ≤ bounds.dailyCap
  recorded
    : ((SmokeDb.empty tenants).after bounds run).renders.rows.map opening
      = ((SmokeDb.empty tenants).opened bounds run).map opening
  refused
    : ∀ sofar now args rest, run = sofar ++ (now, .openSmokeRender args) :: rest
      → ((SmokeDb.empty tenants).after bounds sofar).opens bounds (now, .openSmokeRender args)
          = none
      → (SmokeDb.empty tenants).after bounds (sofar ++ [(now, .openSmokeRender args)])
          = (SmokeDb.empty tenants).after bounds sofar
  unfinished
    : ∀ sofar now id outcome rest, run = sofar ++ (now, .finishSmokeRender id outcome) :: rest
      → ∀ row ∈ ((SmokeDb.empty tenants).after bounds sofar).renders.rows,
          row.status ≠ .running
          → row ∈ ((SmokeDb.empty tenants).after bounds
              (sofar ++ [(now, .finishSmokeRender id outcome)])).renders.rows
  decided
    : ∀ sofar later, run = sofar ++ later
      → ∀ row ∈ ((SmokeDb.empty tenants).after bounds sofar).renders.rows,
          row.status ≠ .running
          → ∃ final ∈ ((SmokeDb.empty tenants).after bounds run).renders.rows,
              final.id = row.id ∧ ending final = ending row
  artifacts
    : ∀ row ∈ ((SmokeDb.empty tenants).after bounds run).renders.rows, ArtifactIffSucceeded row

end ControlPlane.Smoke
