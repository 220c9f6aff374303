import ControlPlane.Library.Listings
import ControlPlane.Meter.Settlement

/-! Emptying a bucket, as far as a time budget goes: wait until the credential can be used, then
list a page and delete it, and so on, until a listing is empty. Keys are in the store's order.
-/

namespace ControlPlane.Buckets

open ControlPlane.Library
open ControlPlane.Meter (sliceUnits)

variable {κ : Type*}

-----------------------------------------------------------------------------------------
-- Calls
-----------------------------------------------------------------------------------------

/-- How a list call ends. With status 200 it has a listing. -/
inductive ListAnswer
  | threw
  | answered (status : Nat)
  deriving DecidableEq, Repr

/-- How a delete call ends: what it says, and the keys that stay. -/
inductive DeleteAnswer (κ : Type*)
  | threw (stays : κ → Bool)
  | answered (status : Nat) (text : String) (errors : Nat) (stays : κ → Bool)

/-- A delete call that succeeds without an error has deleted its keys. -/
def DeleteAnswer.leaves [DecidableEq κ] (answer : DeleteAnswer κ) (batch bucket : List κ)
    : List κ :=
  match answer with
  | .threw stays => bucket.filter fun key => key ∉ batch ∨ stays key
  | .answered status _ errors stays =>
      if status = 200 ∧ errors = 0 then bucket.filter fun key => key ∉ batch
      else bucket.filter fun key => key ∉ batch ∨ stays key

/-- What every call finds, by its number, and the clock where it is read: at the start, after a list
call that was refused, once the credential can be used, and at a check of the budget. A listing has
as many keys as its size allows.
-/
structure BucketWorld (κ : Type*) where
  lists : Nat → ListAnswer
  sizes : Nat → Nat
  deletes : Nat → DeleteAnswer κ
  startedAt : Int
  refusedAt : Nat → Int
  readyAt : Int
  checkedAt : Nat → Int

/-- The budget of the work is absent where it is unbounded. -/
structure EmptyBucketOptions where
  budgetMs : Option Int
  propagationMs : Int := 30000
  deriving DecidableEq, Repr

structure EmptyBucketResult where
  emptied : Bool
  deleted : Nat
  more : Bool
  stalled : Option String
  deriving DecidableEq, Repr

/-- How far a cycle has come: what is in the bucket, what it has counted, and its calls. -/
structure Cycle (κ : Type*) where
  bucket : List κ
  deleted : Nat := 0
  listed : Nat := 0
  made : Nat := 0
  checked : Nat := 0
  deriving DecidableEq, Repr

/-- The end of a cycle. There is no result where a call threw. -/
structure CycleEnd (κ : Type*) where
  result : Option EmptyBucketResult
  cycle : Cycle κ
  deriving DecidableEq, Repr

-----------------------------------------------------------------------------------------
-- The loops
-----------------------------------------------------------------------------------------

def Cycle.stalls (cycle : Cycle κ) (reason : String) : CycleEnd κ where
  result :=
    some { emptied := false, deleted := cycle.deleted, more := true, stalled := some reason }
  cycle := cycle

def Cycle.throws (cycle : Cycle κ) : CycleEnd κ where
  result := none
  cycle := cycle

/-- A loop ends the cycle, or it goes on with a listing. -/
inductive Onward (κ : Type*)
  | ended (final : CycleEnd κ)
  | listed (cycle : Cycle κ) (page : Listing κ)

section World

variable [LinearOrder κ] (world : BucketWorld κ) (options : EmptyBucketOptions)

/-- The next list call. With status 200 it lists what the bucket has at that time. -/
def list (cycle : Cycle κ) (position : Position κ) : ListAnswer × Listing κ :=
  (world.lists cycle.listed, listing cycle.bucket position (world.sizes cycle.listed))

/-- Wait until the credential can be used. -/
def propagate : Nat → Cycle κ → Option (Onward κ)
  | 0, _ => none
  | fuel + 1, cycle =>
      let (answer, page) := list world cycle .start
      let after := { cycle with listed := cycle.listed + 1 }
      match answer with
      | .threw => some (.ended after.throws)
      | .answered status =>
          if status = 200 then some (.listed after page)
          else if status ≠ 401 ∧ status ≠ 403 then
            some (.ended (after.stalls ("list failed HTTP " ++ toString status)))
          else if world.startedAt + options.propagationMs ≤ world.refusedAt cycle.listed then
            some
              (.ended
                (after.stalls
                  ("credential never became usable within " ++ toString options.propagationMs
                    ++ "ms")))
          else propagate fuel after

/-- Out of budget, with work left. A cycle that deleted nothing says so. -/
def Cycle.exhausted (cycle : Cycle κ) : CycleEnd κ where
  result :=
    some
      {
        emptied := false,
        deleted := cycle.deleted,
        more := true,
        stalled :=
          if cycle.deleted = 0 then some "budget exhausted with zero net progress" else none
      }
  cycle := cycle

/-- The end of the work, where it is bounded. -/
def workDeadline : Option Int :=
  options.budgetMs.map fun budget => world.readyAt + budget

/-- The check of the budget, and the list call after it. -/
def goOn (cycle : Cycle κ) (next : Option (Position κ)) : Onward κ :=
  let checked := { cycle with checked := cycle.checked + 1 }
  if (workDeadline world options).any fun deadline => deadline ≤ world.checkedAt cycle.checked then
    .ended checked.exhausted
  else
    let (answer, page) := list world checked (next.getD .start)
    let after := { checked with listed := checked.listed + 1 }
    match answer with
    | .threw => .ended after.throws
    | .answered status =>
        if status ≠ 200 then .ended (after.stalls ("list failed HTTP " ++ toString status))
        else .listed after page

/-- The deletion of one page. -/
def deletePage (cycle : Cycle κ) (page : Listing κ) : Except (CycleEnd κ) (Cycle κ) :=
  let answer := world.deletes cycle.made
  let after :=
    {
      cycle with
      bucket := answer.leaves page.keys cycle.bucket,
      made := cycle.made + 1
    }
  match answer with
  | .threw _ => .error after.throws
  | .answered status text errors _ =>
      if status ≠ 200 then
        .error
          (after.stalls
            ("DeleteObjects HTTP " ++ toString status ++ ": "
              ++ String.ofList (sliceUnits 200 text.toList)))
      else if 0 < errors then
        .error
          (after.stalls ("DeleteObjects reported " ++ toString errors ++ " key error(s)"))
      else .ok { after with deleted := cycle.deleted + page.keys.length }

/-- One round: emptied is only claimed from an empty listing that is not cut off. -/
def round (cycle : Cycle κ) (page : Listing κ) : Onward κ :=
  if page.keys = [] then
    match page.next with
    | none =>
        .ended
          {
            result :=
              some { emptied := true, deleted := cycle.deleted, more := false, stalled := none },
            cycle
          }
    | some next => goOn world options cycle (some next)
  else
    match deletePage world cycle page with
    | .error final => .ended final
    | .ok after => goOn world options after page.next

def work : Nat → Cycle κ → Listing κ → Option (CycleEnd κ)
  | 0, _, _ => none
  | fuel + 1, cycle, page =>
      match round world options cycle page with
      | .ended final => some final
      | .listed after next => work fuel after next

/-- Empty a bucket, as far as the budget and the fuel go. -/
def emptyBucketBounded (bucket : List κ) (fuel : Nat) : Option (CycleEnd κ) :=
  match propagate world options fuel { bucket } with
  | none => none
  | some (.ended final) => some final
  | some (.listed cycle page) => work world options fuel cycle page

end World

end ControlPlane.Buckets
