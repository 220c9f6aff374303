import ControlPlane.LlmSpend.Rollup

/-! What a billing window is worth, judged from the runs assigned to it. Every way the answer
can be less than the truth is a reason, and a window with a reason is not complete.
-/

namespace ControlPlane.LlmSpend

/-- One roll-up run as the read selects it. -/
structure RollupPeriodRow where
  id : String
  windowStart : String
  windowEnd : String
  status : RollupStatus
  controlPassed : Bool
  gapDetected : Bool
  finishedAt : Option String
  deriving DecidableEq, Repr

/-- The aggregate over a tenant's events in the assigned runs. -/
structure WindowSums where
  costMicroUsd : ℤ
  requests : Nat
  unpricedRequests : Nat
  deriving DecidableEq, Repr

structure LlmSpendWindow where
  costMicroUsd : ℤ
  requests : Nat
  windowStart : String
  windowEnd : String
  complete : Bool
  reason : Option String
  periods : Nat
  unpricedRequests : Nat
  deriving DecidableEq, Repr

/-- A run belongs to the window that contains its window_end, half-open. -/
def periodBelongsToWindow (period : RollupPeriodRow) (windowStart windowEnd : String) : Bool :=
  windowStart ≤ period.windowEnd ∧ period.windowEnd < windowEnd

/-- Count the runs with a defect and say so, or say nothing of none. -/
def defect (periods : List RollupPeriodRow) (defective : RollupPeriodRow → Bool)
    (say : Nat → String)
    : List String :=
  if 0 < periods.countP defective then [say (periods.countP defective)] else []

/-- The reasons a window is not complete, in the order they are found. -/
def windowReasons (periods : List RollupPeriodRow) (sums : WindowSums)
    (periodCensusTruncated : Bool)
    : List String :=
  (if periodCensusTruncated then
    ["the period census for this window hit its own row limit, so the periods below are a " ++
      "subset and every count drawn from them is a floor"] else [])
  ++ (if periods.length = 0 then
    ["no roll-up run is assigned to this window, so the meter made no observation of it. That " ++
      "is NOT the same fact as zero spend, and the zero below must not be billed as one"]
    else [])
  ++ defect periods (fun period => period.finishedAt.isNone ∨ period.finishedAt = some "")
    (fun count => toString count ++
      " assigned run(s) never finished writing, so their event sets are partial")
  ++ defect periods (fun period => period.status ≠ .complete)
    (fun count => toString count ++
      " assigned run(s) did not paginate to exhaustion (status incomplete or failed)")
  ++ defect periods (fun period => ¬ period.controlPassed)
    (fun count => toString count ++
      " assigned run(s) FAILED their positive control, so what they read is not evidence " ++
      "(an empty gateway read is indistinguishable from wrong-gateway or no-permission)")
  ++ defect periods (fun period => period.gapDetected)
    (fun count => toString count ++
      " assigned run(s) detected a retention GAP: rows were deleted unread and are gone for " ++
      "good, so this window under-counts by an unknown amount that will never arrive")
  ++ (if 0 < sums.unpricedRequests then
    [toString sums.unpricedRequests ++
      " request(s) in this window carried no usable cost from the gateway and are counted but " ++
      "NOT summed, so the total is a floor"] else [])

/-- Decide the window from what the database handed over. -/
def summariseWindow (periods : List RollupPeriodRow) (windowStart windowEnd : String)
    (sums : WindowSums) (periodCensusTruncated : Bool)
    : LlmSpendWindow :=
  let reasons := windowReasons periods sums periodCensusTruncated
  { costMicroUsd := sums.costMicroUsd
    requests := sums.requests
    windowStart := windowStart
    windowEnd := windowEnd
    complete := reasons.length = 0
    reason := if reasons.length = 0 then none else some ("; ".intercalate reasons)
    periods := periods.length
    unpricedRequests := sums.unpricedRequests }

/-- A reason is missing exactly when its condition is. -/
theorem reason_eq_nil {p : Prop} [Decidable p] {say : String}
    : (if p then [say] else []) = [] ↔ ¬ p := by
  split
  · next holds => exact ⟨fun impossible => absurd impossible (List.cons_ne_nil _ _),
      fun fails => absurd holds fails⟩
  · next fails => exact ⟨fun _ => fails, fun _ => rfl⟩

/-- A defect says nothing exactly when no run has it. -/
theorem defect_eq_nil {periods : List RollupPeriodRow} {defective : RollupPeriodRow → Bool}
    {say : Nat → String}
    : defect periods defective say = [] ↔ ∀ period ∈ periods, defective period = false := by
  rw [defect, reason_eq_nil, List.countP_pos_iff]
  constructor
  · intro none period member
    cases bad : defective period with
    | false => rfl
    | true => exact absurd ⟨period, member, bad⟩ none
  · intro allGood some
    obtain ⟨period, member, bad⟩ := some
    rw [allGood period member] at bad
    exact Bool.false_ne_true bad

/-- What a complete window rests on: an untruncated census of at least one run, each of them
finished, read to the end, controlled and without a gap, and a price for every request.
-/
theorem summariseWindow_complete {periods : List RollupPeriodRow}
    {windowStart windowEnd : String} {sums : WindowSums} {truncated : Bool}
    : (summariseWindow periods windowStart windowEnd sums truncated).complete
      ↔ truncated = false
        ∧ periods ≠ []
        ∧ (∀ period ∈ periods,
            (∃ finished, period.finishedAt = some finished ∧ finished ≠ "")
            ∧ period.status = .complete
            ∧ period.controlPassed
            ∧ period.gapDetected = false)
        ∧ sums.unpricedRequests = 0 := by
  have nothing : (summariseWindow periods windowStart windowEnd sums truncated).complete
      ↔ windowReasons periods sums truncated = [] := by
    simp [summariseWindow]
  rw [nothing, windowReasons]
  have finished : ∀ period : RollupPeriodRow,
      decide (period.finishedAt.isNone ∨ period.finishedAt = some "") = false
        ↔ ∃ finished, period.finishedAt = some finished ∧ finished ≠ "" := by
    intro period
    cases period.finishedAt with
    | none => simp
    | some finished => simp
  simp only [List.append_eq_nil_iff, defect_eq_nil, reason_eq_nil, finished]
  constructor
  · intro reasons
    obtain ⟨⟨⟨⟨⟨⟨census, observed⟩, wrote⟩, walked⟩, controlled⟩, kept⟩, priced⟩ := reasons
    refine ⟨by simpa using census, by simpa using observed, ?_, by simpa using priced⟩
    intro period member
    refine ⟨wrote period member, ?_, ?_, kept period member⟩
    · simpa using walked period member
    · simpa using controlled period member
  · intro conditions
    obtain ⟨census, observed, assigned, priced⟩ := conditions
    refine ⟨⟨⟨⟨⟨⟨by simp [census], by simp [observed]⟩, ?_⟩, ?_⟩, ?_⟩, ?_⟩, by simp [priced]⟩
    · exact fun period member => (assigned period member).1
    · exact fun period member => by simp [(assigned period member).2.1]
    · exact fun period member => by simp [(assigned period member).2.2.1]
    · exact fun period member => (assigned period member).2.2.2

end ControlPlane.LlmSpend
