import ControlPlane.Store.Rows

/-! The operator smoke renders. The spend guard is the WHERE clause of the INSERT, so the write
decides, and the terminal write of a render tests that it is still running.
-/

namespace ControlPlane.Store

open ControlPlane.Library

inductive SmokeStatus
  | running
  | succeeded
  | failed
  deriving DecidableEq, Repr

/-- Proof of fetched bytes. -/
structure SmokeRenderArtifact where
  key : String
  bytes : Nat
  sha256 : String
  contentType : String
  deriving DecidableEq, Repr

/-- One operator smoke render of one tenant. -/
structure SmokeRender where
  id : String
  tenantId : String
  status : SmokeStatus := .running
  modulesRelease : Option String
  studioJobId : Option String := none
  bundleKey : Option String := none
  artifactKey : Option String := none
  artifactBytes : Option Nat := none
  artifactSha256 : Option String := none
  artifactContentType : Option String := none
  errorMessage : Option String := none
  createdAt : Nat
  updatedAt : Nat
  finishedAt : Option Nat := none
  deriving DecidableEq, Repr

/-- The bounds of the spend guard. -/
structure SmokeRenderBounds where
  cooldownSeconds : Nat
  dailyCap : Nat
  inFlightSeconds : Nat
  deriving DecidableEq, Repr

/-- 30 minutes between two renders of a tenant, 20 renders a day, 20 minutes for one render. -/
def defaultSmokeBounds : SmokeRenderBounds where
  cooldownSeconds := 30 * 60
  dailyCap := 20
  inFlightSeconds := 20 * 60

/-- The trailing window of the daily cap. -/
def smokeCapWindowSeconds : Nat := 86400

/-- smoke_renders, over the tenants its foreign key names. -/
structure SmokeDb where
  tenants : List String
  renders : Keyed SmokeRender.id

/-- The row's created_at is later than datetime('now', '-' || seconds || ' seconds'). -/
def SmokeRender.Within (render : SmokeRender) (seconds now : Nat) : Prop :=
  now < render.createdAt + seconds

instance (render : SmokeRender) (seconds now : Nat) : Decidable (render.Within seconds now) := by
  unfold SmokeRender.Within; infer_instance

/-- The three bounds of the INSERT: nothing of the tenant in flight, the tenant past its
cooldown, and the count of all tenants below the cap.
-/
def SmokeDb.Admits (db : SmokeDb) (now : Nat) (tenantId : String) (bounds : SmokeRenderBounds)
    : Prop :=
  (¬ ∃ render ∈ db.renders.rows, render.tenantId = tenantId ∧ render.status = .running
      ∧ render.Within bounds.inFlightSeconds now)
  ∧ (¬ ∃ render ∈ db.renders.rows, render.tenantId = tenantId
      ∧ render.Within bounds.cooldownSeconds now)
  ∧ db.renders.rows.countP (fun render => render.Within smokeCapWindowSeconds now)
      < bounds.dailyCap

instance (db : SmokeDb) (now : Nat) (tenantId : String) (bounds : SmokeRenderBounds)
    : Decidable (db.Admits now tenantId bounds) := by
  unfold SmokeDb.Admits; infer_instance

/-- The arguments of openSmokeRender, apart from the bounds. -/
structure OpenSmokeRender where
  id : String
  tenantId : String
  modulesRelease : Option String
  deriving DecidableEq, Repr

/-- The row an open inserts. -/
def OpenSmokeRender.row (args : OpenSmokeRender) (now : Nat) : SmokeRender where
  id := args.id
  tenantId := args.tenantId
  modulesRelease := args.modulesRelease
  createdAt := now
  updatedAt := now

/-- INSERT INTO smoke_renders ... SELECT ... WHERE the bounds hold RETURNING *. -/
def SmokeDb.openSmokeRender (db : SmokeDb) (now : Nat) (args : OpenSmokeRender)
    (bounds : SmokeRenderBounds)
    : Except ConstraintViolation (SmokeDb × Option SmokeRender) :=
  if db.Admits now args.tenantId bounds then
    if newId : ∀ old ∈ db.renders.rows, old.id ≠ (args.row now).id then
      if args.tenantId ∈ db.tenants then
        .ok ({ db with renders := db.renders.insert (args.row now) newId }, some (args.row now))
      else .error .foreignKey
    else .error .primaryKey
  else .ok (db, none)

/-- What a poll observed of a render. -/
inductive SmokeOutcome
  | succeeded (artifact : SmokeRenderArtifact)
  | failed (error : String)
  deriving DecidableEq, Repr

/-- The terminal write, WHERE id = ?1 AND status = 'running'. -/
def finishSmokeRender (now : Nat) (id : String) (outcome : SmokeOutcome)
    : Update SmokeRender.id where
  target := id
  guard render := render.status = .running
  set render :=
    match outcome with
    | .succeeded artifact =>
        { render with
          status := .succeeded
          artifactKey := some artifact.key
          artifactBytes := some artifact.bytes
          artifactSha256 := some artifact.sha256
          artifactContentType := some artifact.contentType
          updatedAt := now
          finishedAt := some now }
    | .failed error =>
        { render with
          status := .failed
          errorMessage := some error
          updatedAt := now
          finishedAt := some now }
  keeps render := by cases outcome <;> rfl

/-- Record what the studio accepted. It tests nothing. -/
def setSmokeRenderSubmitted (now : Nat) (id studioJobId bundleKey : String)
    : Update SmokeRender.id where
  target := id
  guard _ := true
  set render :=
    { render with
      studioJobId := some studioJobId
      bundleKey := some bundleKey
      updatedAt := now }
  keeps _ := rfl

/-- A call of one of the writing methods. -/
inductive SmokeCall
  | openSmokeRender (args : OpenSmokeRender)
  | finishSmokeRender (id : String) (outcome : SmokeOutcome)
  | setSmokeRenderSubmitted (id studioJobId bundleKey : String)
  deriving DecidableEq, Repr

/-- What a call leaves, and the row an open returns. -/
def SmokeCall.run (db : SmokeDb) (bounds : SmokeRenderBounds) (now : Nat)
    : SmokeCall → Except ConstraintViolation (SmokeDb × Option SmokeRender)
  | .openSmokeRender args => db.openSmokeRender now args bounds
  | .finishSmokeRender id outcome =>
      .ok ({ db with renders := (Store.finishSmokeRender now id outcome).apply db.renders }, none)
  | .setSmokeRenderSubmitted id studioJobId bundleKey =>
      .ok
        ({ db with
            renders :=
              (Store.setSmokeRenderSubmitted now id studioJobId bundleKey).apply db.renders },
          none)

/-- The database after a call: what it left, or what it was before an error. -/
def SmokeDb.step (db : SmokeDb) (bounds : SmokeRenderBounds) (call : Nat × SmokeCall) : SmokeDb :=
  match call.2.run db bounds call.1 with
  | .ok ran => ran.1
  | .error _ => db

/-- The row a call opened, if it opened one. -/
def SmokeDb.opens (db : SmokeDb) (bounds : SmokeRenderBounds) (call : Nat × SmokeCall)
    : Option SmokeRender :=
  match call.2.run db bounds call.1 with
  | .ok ran => ran.2
  | .error _ => none

/-- Calls in the order the database ran them, each with the clock it ran at. -/
abbrev SmokeRun := List (Nat × SmokeCall)

/-- The database after a run of calls. -/
def SmokeDb.after (db : SmokeDb) (bounds : SmokeRenderBounds) (run : SmokeRun) : SmokeDb :=
  run.foldl (fun current call => current.step bounds call) db

/-- The renders that a run opened, as they were returned, in order. -/
def SmokeDb.opened (bounds : SmokeRenderBounds) : SmokeDb → SmokeRun → List SmokeRender
  | _, [] => []
  | db, call :: rest =>
      (db.opens bounds call).toList ++ SmokeDb.opened bounds (db.step bounds call) rest

/-- The table as the migration creates it. -/
def SmokeDb.empty (tenants : List String) : SmokeDb where
  tenants := tenants
  renders := .empty

theorem SmokeDb.after_snoc (db : SmokeDb) (bounds : SmokeRenderBounds) (sofar : SmokeRun)
    (call : Nat × SmokeCall)
    : db.after bounds (sofar ++ [call]) = (db.after bounds sofar).step bounds call := by
  simp only [SmokeDb.after, List.foldl_append, List.foldl_cons, List.foldl_nil]

/-- A run opens what its first part opens, and then what its second part does, by induction on
the first part.
-/
theorem SmokeDb.opened_append (bounds : SmokeRenderBounds) (db : SmokeDb)
    (first second : SmokeRun)
    : db.opened bounds (first ++ second)
      = db.opened bounds first ++ (db.after bounds first).opened bounds second := by
  induction first generalizing db with
  | nil => rfl
  | cons call rest ih =>
      rw [List.cons_append, SmokeDb.opened, SmokeDb.opened, ih, List.append_assoc]
      rfl

end ControlPlane.Store
