import ControlPlane.Library.Sorting
import Mathlib.Algebra.BigOperators.Group.Finset.Basic
import Mathlib.Algebra.Order.BigOperators.Group.Finset
import Mathlib.Data.List.Perm.Subperm

/-! What the buckets of the tenants hold, and whether that is more than the operator's threshold. A
bucket that several tenants have is counted once for each of them.
-/

namespace ControlPlane.R2Usage

open ControlPlane.Library

structure TenantLite where
  id : String
  slug : String
  r2BucketName : Option String
  deriving DecidableEq, Repr

structure Measurement where
  payloadBytes : Nat
  objectCount : Nat
  deriving DecidableEq, Repr

/-- One tenant bucket, as measured. What could not be read is null, and never 0. -/
structure TenantBucketUsage where
  tenantId : String
  slug : String
  bucket : String
  payloadBytes : Option Nat
  objectCount : Option Nat
  error : Option String
  deriving DecidableEq, Repr

inductive AlertState
  | over
  | under
  | indeterminate
  | noThreshold
  deriving DecidableEq, Repr

structure R2UsageReport where
  censusComplete : Bool
  thresholdBytes : Option Int
  totalBytes : Nat
  totalObjects : Nat
  bucketsRead : Nat
  bucketsUnreadable : Nat
  tenantsWithoutBucket : Nat
  totalIsFloor : Bool
  alert : AlertState
  tenants : List TenantBucketUsage
  deriving DecidableEq, Repr

/-- The bucket of a tenant, if it has one. -/
def TenantLite.bucket? (tenant : TenantLite) : Option String :=
  tenant.r2BucketName.filter fun name => name ≠ ""

/-- The counters of the loop, and its rows. -/
structure Tally where
  rows : List TenantBucketUsage := []
  totalBytes : Nat := 0
  totalObjects : Nat := 0
  read : Nat := 0
  unreadable : Nat := 0
  withoutBucket : Nat := 0

/-- A measurement or an error for each bucket. -/
abbrev Measurements := String → Option (Except String Measurement)

def Tally.unread (tally : Tally) (tenant : TenantLite) (bucket error : String) : Tally :=
  { tally with
    unreadable := tally.unreadable + 1
    rows :=
      tally.rows
        ++ [{ tenantId := tenant.id, slug := tenant.slug, bucket := bucket, payloadBytes := none,
              objectCount := none, error := some error }] }

/-- Count one tenant. A bucket without a measurement is unreadable, and not empty. -/
def Tally.add (measurements : Measurements) (tally : Tally) (tenant : TenantLite) : Tally :=
  match tenant.bucket? with
  | none => { tally with withoutBucket := tally.withoutBucket + 1 }
  | some bucket =>
      match measurements bucket with
      | none => tally.unread tenant bucket "no measurement returned"
      | some (.error error) => tally.unread tenant bucket error
      | some (.ok measured) =>
          { tally with
            read := tally.read + 1
            totalBytes := tally.totalBytes + measured.payloadBytes
            totalObjects := tally.totalObjects + measured.objectCount
            rows :=
              tally.rows
                ++ [{ tenantId := tenant.id, slug := tenant.slug, bucket := bucket,
                      payloadBytes := some measured.payloadBytes,
                      objectCount := some measured.objectCount, error := none }] }

/-- Build the report from measurements already taken. The biggest bucket comes first. -/
def buildR2UsageReport (tenants : List TenantLite) (censusComplete : Bool)
    (measurements : Measurements) (thresholdBytes : Option Int)
    : R2UsageReport :=
  let tally := tenants.foldl (Tally.add measurements) {}
  let totalIsFloor := !censusComplete || decide (0 < tally.unreadable)
  { censusComplete := censusComplete
    thresholdBytes := thresholdBytes
    totalBytes := tally.totalBytes
    totalObjects := tally.totalObjects
    bucketsRead := tally.read
    bucketsUnreadable := tally.unreadable
    tenantsWithoutBucket := tally.withoutBucket
    totalIsFloor := totalIsFloor
    alert :=
      match thresholdBytes with
      | none => .noThreshold
      | some threshold =>
          if threshold < tally.totalBytes then .over
          else if totalIsFloor then .indeterminate
          else .under
    tenants := sortBy (fun row => -(row.payloadBytes.elim (-1) Int.ofNat)) tally.rows }

-----------------------------------------------------------------------------------------
-- What there is to know
-----------------------------------------------------------------------------------------

/-- The tenants there are, and the part of them that was listed. -/
structure Census where
  all : List TenantLite
  listed : List TenantLite
  complete : Bool
  part : listed.Subperm all
  whole : complete = true → listed.Perm all

/-- What each bucket holds, and what was measured of it: that, an error, or nothing. -/
structure Readings where
  size : String → Nat
  measurements : Measurements
  truthful
    : ∀ bucket measured, measurements bucket = some (.ok measured)
      → measured.payloadBytes = size bucket

/-- The distinct buckets of some tenants. -/
def buckets (tenants : List TenantLite) : Finset String :=
  (tenants.filterMap TenantLite.bucket?).toFinset

/-- What the distinct buckets of all tenants hold. -/
def Census.trueTotal (census : Census) (readings : Readings) : Nat :=
  ∑ bucket ∈ buckets census.all, readings.size bucket

def isMeasured (measurements : Measurements) (bucket : String) : Bool :=
  (measurements bucket).any fun result => result.isOk

/-- How many of the tenants have the bucket. -/
def rowsOf (tenants : List TenantLite) (bucket : String) : Nat :=
  tenants.countP fun tenant => tenant.bucket? = some bucket

/-- What the measured buckets hold, each as often as there are listed tenants that have it. -/
def Census.repeatedTotal (census : Census) (readings : Readings) : Nat :=
  ∑ bucket ∈ (buckets census.listed).filter fun bucket => isMeasured readings.measurements bucket,
    rowsOf census.listed bucket * readings.size bucket

/-- The report of a census and its readings. -/
def Census.report (census : Census) (readings : Readings) (thresholdBytes : Option Int)
    : R2UsageReport :=
  buildR2UsageReport census.listed census.complete readings.measurements thresholdBytes

/-- The alert says no more than is true of what the buckets hold, and no tenant is left out. -/
structure SoundReport (census : Census) (readings : Readings) (thresholdBytes : Option Int)
    : Prop where
  alarm
    : (census.report readings thresholdBytes).alert = .over
      → ∀ threshold, thresholdBytes = some threshold
      → threshold < census.trueTotal readings
  clear
    : (census.report readings thresholdBytes).alert = .under
      → ∀ threshold, thresholdBytes = some threshold
      → (census.trueTotal readings : Int) ≤ threshold
  counted
    : (census.report readings thresholdBytes).bucketsRead
        + (census.report readings thresholdBytes).bucketsUnreadable
        + (census.report readings thresholdBytes).tenantsWithoutBucket
      = census.listed.length

end ControlPlane.R2Usage
