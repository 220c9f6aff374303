import ControlPlane.R2Usage.Report
import Mathlib.Algebra.Group.Action.Defs
import Mathlib.Algebra.GroupWithZero.Nat

/-! When the alert is sound. An all-clear always is; an alarm is, unless buckets that several tenants
have are counted past the threshold.
-/

namespace ControlPlane.R2Usage

variable {readings : Readings}

/-- What a tenant's row adds to the total. -/
def readBytes (readings : Readings) (tenant : TenantLite) : Nat :=
  match tenant.bucket? with
  | none => 0
  | some bucket =>
      if isMeasured readings.measurements bucket then readings.size bucket else 0

/-- The tenant's bucket was not measured. -/
def isUnread (measurements : Measurements) (tenant : TenantLite) : Bool :=
  tenant.bucket?.any fun bucket => !isMeasured measurements bucket

/-- What counting one tenant does to the counters, by cases of its bucket and the measurement. -/
theorem add_counters (readings : Readings) (tally : Tally) (tenant : TenantLite)
    : (tally.add readings.measurements tenant).totalBytes
          = tally.totalBytes + readBytes readings tenant
      ∧ (tally.add readings.measurements tenant).unreadable
          = tally.unreadable + (isUnread readings.measurements tenant).toNat
      ∧ (tally.add readings.measurements tenant).read
            + (tally.add readings.measurements tenant).unreadable
            + (tally.add readings.measurements tenant).withoutBucket
          = tally.read + tally.unreadable + tally.withoutBucket + 1 := by
  unfold Tally.add readBytes isUnread
  cases tenant.bucket? with
  | none => exact ⟨rfl, rfl, by dsimp only; omega⟩
  | some bucket =>
      dsimp only [Option.any_some]
      rw [isMeasured]
      cases isResult : readings.measurements bucket with
      | none => exact ⟨rfl, rfl, by dsimp only [Tally.unread]; omega⟩
      | some result =>
          cases result with
          | error message => exact ⟨rfl, rfl, by dsimp only [Tally.unread]; omega⟩
          | ok measured =>
              have isSize := readings.truthful bucket measured isResult
              refine ⟨?_, rfl, ?_⟩
              · dsimp only
                rw [isSize]
                rfl
              · dsimp only
                omega

/-- What counting tenants does to the counters, by induction on the tenants. -/
theorem foldl_counters (readings : Readings) (tenants : List TenantLite) (tally : Tally)
    : (tenants.foldl (Tally.add readings.measurements) tally).totalBytes
          = tally.totalBytes + (tenants.map (readBytes readings)).sum
      ∧ (tenants.foldl (Tally.add readings.measurements) tally).unreadable
          = tally.unreadable + tenants.countP (isUnread readings.measurements)
      ∧ (tenants.foldl (Tally.add readings.measurements) tally).read
            + (tenants.foldl (Tally.add readings.measurements) tally).unreadable
            + (tenants.foldl (Tally.add readings.measurements) tally).withoutBucket
          = tally.read + tally.unreadable + tally.withoutBucket + tenants.length := by
  induction tenants generalizing tally with
  | nil => simp
  | cons tenant rest ih =>
      obtain ⟨bytes, unread, counted⟩ := ih (tally.add readings.measurements tenant)
      obtain ⟨addedBytes, addedUnread, addedCount⟩ := add_counters readings tally tenant
      rw [List.foldl_cons, List.map_cons, List.sum_cons, List.countP_cons, List.length_cons]
      refine ⟨?_, ?_, ?_⟩
      · omega
      · rw [unread, addedUnread]
        cases isUnread readings.measurements tenant
        · rfl
        · simp only [Bool.toNat_true, if_pos]
          omega
      · omega

/-- The bucket of a tenant, if it was measured. -/
def readBucket? (measurements : Measurements) (tenant : TenantLite) : Option String :=
  tenant.bucket?.filter (isMeasured measurements)

theorem readBytes_eq (readings : Readings) (tenant : TenantLite)
    : readBytes readings tenant
      = (readBucket? readings.measurements tenant).elim 0 readings.size := by
  unfold readBytes readBucket?
  cases tenant.bucket? with
  | none => rfl
  | some bucket =>
      by_cases measured : isMeasured readings.measurements bucket = true
      · simp [Option.filter, measured]
      · simp [Option.filter, measured]

theorem toFinset_readBucket? (measurements : Measurements) (tenants : List TenantLite)
    : (tenants.filterMap (readBucket? measurements)).toFinset
      = (buckets tenants).filter fun bucket => isMeasured measurements bucket := by
  ext bucket
  simp only [List.mem_toFinset, List.mem_filterMap, buckets, Finset.mem_filter, readBucket?,
    Option.filter_eq_some_iff]
  constructor
  · intro h
    obtain ⟨tenant, member, has, measured⟩ := h
    exact ⟨⟨tenant, member, has⟩, measured⟩
  · intro h
    obtain ⟨⟨tenant, member, has⟩, measured⟩ := h
    exact ⟨tenant, member, has, measured⟩

theorem count_readBucket? {measurements : Measurements} (tenants : List TenantLite)
    {bucket : String} (measured : isMeasured measurements bucket = true)
    : (tenants.filterMap (readBucket? measurements)).count bucket = rowsOf tenants bucket := by
  rw [List.count_filterMap, rowsOf]
  refine List.countP_congr fun tenant _ => ?_
  simp only [beq_iff_eq, decide_eq_true_eq, readBucket?, Option.filter_eq_some_iff]
  exact and_iff_left measured

/-- The bytes of the rows are those of the measured buckets, each as often as it has rows. -/
theorem sum_readBytes (readings : Readings) (tenants : List TenantLite)
    : (tenants.map (readBytes readings)).sum
      = ∑ bucket ∈ (buckets tenants).filter fun bucket => isMeasured readings.measurements bucket,
          rowsOf tenants bucket * readings.size bucket := by
  have asList : (tenants.map (readBytes readings)).sum
      = ((tenants.filterMap (readBucket? readings.measurements)).map readings.size).sum := by
    induction tenants with
    | nil => rfl
    | cons tenant rest ih =>
        rw [List.map_cons, List.sum_cons, ih, readBytes_eq, List.filterMap_cons]
        cases readBucket? readings.measurements tenant with
        | none => exact Nat.zero_add _
        | some bucket => rfl
  rw [asList, Finset.sum_list_map_count, toFinset_readBucket?]
  refine Finset.sum_congr rfl fun bucket member => ?_
  rw [smul_eq_mul, count_readBucket? tenants (Finset.mem_filter.mp member).2]

-----------------------------------------------------------------------------------------
-- The verdicts
-----------------------------------------------------------------------------------------

variable (census : Census) (thresholdBytes : Option Int)

theorem totalBytes_report
    : (census.report readings thresholdBytes).totalBytes = census.repeatedTotal readings := by
  have counters := foldl_counters readings census.listed {}
  rw [sum_readBytes] at counters
  exact counters.1.trans (Nat.zero_add _)

/-- The alarm is given exactly when the rows hold more than the threshold. -/
theorem alert_over_iff
    : (census.report readings thresholdBytes).alert = .over
      ↔ ∃ threshold, thresholdBytes = some threshold
          ∧ threshold < census.repeatedTotal readings := by
  rw [← totalBytes_report census thresholdBytes]
  cases thresholdBytes with
  | none => simp [Census.report, buildR2UsageReport]
  | some threshold =>
      simp only [Census.report, buildR2UsageReport, Option.some.injEq, exists_eq_left']
      split
      next above => exact iff_of_true rfl above
      next within =>
        refine iff_of_false ?_ within
        split <;> exact nofun

/-- The all-clear is given only on a whole census of buckets that are all read. -/
theorem whole_of_alert_under
    (clear : (census.report readings thresholdBytes).alert = .under)
    : census.complete = true
      ∧ (∀ tenant ∈ census.listed, isUnread readings.measurements tenant = false)
      ∧ ∀ threshold, thresholdBytes = some threshold
          → (census.repeatedTotal readings : Int) ≤ threshold := by
  obtain ⟨-, unread, -⟩ := foldl_counters readings census.listed {}
  have total : (census.report readings thresholdBytes).totalBytes = census.repeatedTotal readings :=
    totalBytes_report census thresholdBytes
  cases thresholdBytes with
  | none => exact nomatch clear
  | some threshold =>
      rw [← total]
      simp only [Census.report, buildR2UsageReport] at clear ⊢
      split at clear
      next => exact nomatch clear
      next within =>
        split at clear
        next => exact nomatch clear
        next whole =>
          simp only [Bool.or_eq_true, Bool.not_eq_true', decide_eq_true_eq, not_or,
            Bool.not_eq_false, Nat.not_lt, Nat.le_zero_eq, unread] at whole
          obtain ⟨complete, allRead⟩ := whole
          have none := List.countP_eq_zero.mp ((Nat.zero_add _).symm.trans allRead)
          refine ⟨complete, fun tenant member => ?_, ?_⟩
          · exact Bool.eq_false_of_not_eq_true (none tenant member)
          · intro _ h
            obtain ⟨rfl⟩ := h
            exact not_lt.mp within

/-- Where every bucket is read, each counts at least once. -/
theorem trueTotal_le (complete : census.complete = true)
    (allRead : ∀ tenant ∈ census.listed, isUnread readings.measurements tenant = false)
    : census.trueTotal readings ≤ census.repeatedTotal readings := by
  have same : buckets census.all = buckets census.listed := by
    ext bucket
    simp only [buckets, List.mem_toFinset, List.mem_filterMap,
      (census.whole complete).mem_iff]
  have measured : ∀ bucket ∈ buckets census.listed,
      isMeasured readings.measurements bucket = true ∧ 1 ≤ rowsOf census.listed bucket := by
    intro bucket member
    obtain ⟨tenant, listed, has⟩ := List.mem_filterMap.mp (List.mem_toFinset.mp member)
    have read := allRead tenant listed
    rw [isUnread, has, Option.any_some, Bool.not_eq_false'] at read
    exact ⟨read, List.countP_pos_iff.mpr ⟨tenant, listed, decide_eq_true has⟩⟩
  rw [Census.trueTotal, Census.repeatedTotal, same,
    Finset.filter_true_of_mem fun bucket member => (measured bucket member).1]
  refine Finset.sum_le_sum fun bucket member => ?_
  exact Nat.le_mul_of_pos_left _ (measured bucket member).2

/-- The report is sound exactly when the threshold is below what the buckets hold, or is not passed
by what the measured ones hold with each counted once for every tenant that has it.
-/
theorem soundReport_iff
    : SoundReport census readings thresholdBytes
      ↔ ∀ threshold, thresholdBytes = some threshold
          → threshold < census.trueTotal readings
            ∨ (census.repeatedTotal readings : Int) ≤ threshold := by
  constructor
  · intro sound threshold isThreshold
    by_contra neither
    rw [not_or, not_le] at neither
    exact neither.1
      (sound.alarm ((alert_over_iff census thresholdBytes).mpr ⟨threshold, isThreshold, neither.2⟩)
        threshold isThreshold)
  · intro bounded
    refine ⟨?_, ?_, ?_⟩
    · intro alarm threshold isThreshold
      obtain ⟨_, same, passed⟩ := (alert_over_iff census thresholdBytes).mp alarm
      cases isThreshold.symm.trans same
      exact (bounded threshold isThreshold).resolve_right (not_le.mpr passed)
    · intro clear threshold isThreshold
      obtain ⟨complete, allRead, within⟩ := whole_of_alert_under census thresholdBytes clear
      have below : (census.trueTotal readings : Int) ≤ census.repeatedTotal readings := by
        exact_mod_cast trueTotal_le census complete allRead
      exact below.trans (within threshold isThreshold)
    · exact (foldl_counters readings census.listed {}).2.2.trans (Nat.zero_add _)

def sharedBucket : Census where
  all := [⟨"ten_1", "acme", some "b"⟩, ⟨"ten_2", "acme-2", some "b"⟩]
  listed := [⟨"ten_1", "acme", some "b"⟩, ⟨"ten_2", "acme-2", some "b"⟩]
  complete := true
  part := .refl _
  whole _ := .refl _

def sixBytes : Readings where
  size _ := 6
  measurements _ := some (.ok { payloadBytes := 6, objectCount := 1 })
  truthful := by
    intro bucket measured h
    obtain ⟨rfl⟩ := h
    rfl

/-- One bucket of six bytes is reported as over ten, as two tenants have it. -/
theorem sharedBucket_unsound : ¬ SoundReport sharedBucket sixBytes (some 10) := by
  intro sound
  have alarm : (sharedBucket.report sixBytes (some 10)).alert = .over := by decide
  have above := sound.alarm alarm 10 rfl
  exact absurd above (by decide)

end ControlPlane.R2Usage
