import ControlPlane.Buckets.Emptying

/-! Emptying a bucket is sound and comes to an end: the bucket is only said to be empty when it is,
and what is counted as deleted was deleted.
-/

namespace ControlPlane.Buckets

open ControlPlane.Library

variable {κ : Type*} [LinearOrder κ]

-----------------------------------------------------------------------------------------
-- What a cycle promises
-----------------------------------------------------------------------------------------

/-- A delete call went well. -/
def DeleteAnswer.Clean {κ : Type*} : DeleteAnswer κ → Prop
  | .threw _ => False
  | .answered status _ errors _ => status = 200 ∧ errors = 0

/-- No call of a cycle failed, and no check of it found the budget used up. -/
structure Undisturbed {κ : Type*} (world : BucketWorld κ) (options : EmptyBucketOptions)
    (cycle : Cycle κ)
    : Prop where
  lists : ∀ i < cycle.listed, world.lists i = .answered 200
  deletes : ∀ i < cycle.made, (world.deletes i).Clean
  checks : ∀ i < cycle.checked, ∀ deadline ∈ workDeadline world options,
    world.checkedAt i < deadline

/-- What is said of the bucket at the end of a cycle is so. -/
structure Sound (world : BucketWorld κ) (options : EmptyBucketOptions) (initial : List κ)
    (final : CycleEnd κ)
    : Prop where
  emptied : ∀ result, final.result = some result → result.emptied = true → final.cycle.bucket = []
  more : ∀ result, final.result = some result → result.more = !result.emptied
  atMost : ∀ result, final.result = some result →
    result.deleted ≤ (removed initial final.cycle.bucket).length
  exact : ∀ result, final.result = some result →
    (∀ i < final.cycle.made, (world.deletes i).Clean) →
      result.deleted = (removed initial final.cycle.bucket).length
  completes : Undisturbed world options final.cycle →
    ∃ result, final.result = some result ∧ result.emptied = true

/-- What is counted was removed, and everything removed was counted while the deletes were clean. -/
structure Counted {κ : Type*} (world : BucketWorld κ) (initial : List κ) (cycle : Cycle κ)
    : Prop where
  kept : cycle.bucket.Sublist initial
  atMost : cycle.deleted + cycle.bucket.length ≤ initial.length
  exact : (∀ i < cycle.made, (world.deletes i).Clean) →
    cycle.deleted + cycle.bucket.length = initial.length

section Cycles

variable {κ : Type*} {world : BucketWorld κ} {options : EmptyBucketOptions} {initial : List κ}
  {cycle : Cycle κ}

theorem Counted.congr {after : Cycle κ} (counted : Counted world initial cycle)
    (bucket : after.bucket = cycle.bucket) (deleted : after.deleted = cycle.deleted)
    (made : after.made = cycle.made)
    : Counted world initial after where
  kept := bucket ▸ counted.kept
  atMost := by
    rw [bucket, deleted]
    exact counted.atMost
  exact := by
    rw [bucket, deleted, made]
    exact counted.exact

/-- Before any work, nothing is counted and nothing is gone. -/
theorem counted_untouched (untouched : cycle.bucket = initial) (uncounted : cycle.deleted = 0)
    : Counted world initial cycle := by
  constructor
  · rw [untouched]
  · rw [untouched, uncounted, Nat.zero_add]
  · intro _
    rw [untouched, uncounted, Nat.zero_add]

theorem unclaimed_stalls (cycle : Cycle κ) (reason : String)
    : ∀ result, (cycle.stalls reason).result = some result →
      result.emptied = false ∧ result.more = true ∧ result.deleted = cycle.deleted := by
  intro result isResult
  cases Option.some.inj isResult
  exact ⟨rfl, rfl, rfl⟩

theorem unclaimed_exhausted (cycle : Cycle κ)
    : ∀ result, cycle.exhausted.result = some result →
      result.emptied = false ∧ result.more = true ∧ result.deleted = cycle.deleted := by
  intro result isResult
  cases Option.some.inj isResult
  exact ⟨rfl, rfl, rfl⟩

theorem unclaimed_throws (cycle : Cycle κ)
    : ∀ result, cycle.throws.result = some result →
      result.emptied = false ∧ result.more = true ∧ result.deleted = cycle.deleted :=
  nofun

/-- A list call that failed disturbs the cycle. -/
theorem disturbed_of_list {after : Cycle κ} {i : Nat} (made : i < after.listed)
    (failed : world.lists i ≠ .answered 200)
    : ¬Undisturbed world options after :=
  fun undisturbed => failed (undisturbed.lists i made)

theorem disturbed_of_delete {after : Cycle κ} {i : Nat} (made : i < after.made)
    (failed : ¬(world.deletes i).Clean)
    : ¬Undisturbed world options after :=
  fun undisturbed => failed (undisturbed.deletes i made)

end Cycles

-----------------------------------------------------------------------------------------
-- One round
-----------------------------------------------------------------------------------------

section Rounds

variable {world : BucketWorld κ} {options : EmptyBucketOptions} {initial : List κ} {cycle : Cycle κ}

/-- A cycle that ends disturbed, and does not claim to have emptied the bucket. -/
theorem sound_of_disturbed {final : CycleEnd κ} (distinct : initial.Nodup)
    (counted : Counted world initial final.cycle)
    (disturbed : ¬Undisturbed world options final.cycle)
    (unclaimed : ∀ result, final.result = some result →
      result.emptied = false ∧ result.more = true ∧ result.deleted = final.cycle.deleted)
    : Sound world options initial final where
  emptied := by
    intro result isResult emptied
    obtain ⟨not_emptied, -, -⟩ := unclaimed result isResult
    exact absurd (emptied.symm.trans not_emptied) (by simp)
  more := by
    intro result isResult
    obtain ⟨not_emptied, more, -⟩ := unclaimed result isResult
    simp [not_emptied, more]
  atMost := by
    intro result isResult
    obtain ⟨-, -, same⟩ := unclaimed result isResult
    have bound := counted.atMost
    have both := length_removed counted.kept distinct
    omega
  exact := by
    intro result isResult clean
    obtain ⟨-, -, same⟩ := unclaimed result isResult
    have bound := counted.exact clean
    have both := length_removed counted.kept distinct
    omega
  completes := fun undisturbed => absurd undisturbed disturbed

/-- How a round goes on: it ends the cycle disturbed, or the next page is a listing of what is
left.
-/
inductive GoesOn (world : BucketWorld κ) (options : EmptyBucketOptions) (cycle : Cycle κ)
    (next : Option (Position κ))
    : Onward κ → Prop
  | ended {final : CycleEnd κ} (bucket : final.cycle.bucket = cycle.bucket)
      (deleted : final.cycle.deleted = cycle.deleted) (made : final.cycle.made = cycle.made)
      (disturbed : ¬Undisturbed world options final.cycle)
      (unclaimed : ∀ result, final.result = some result →
        result.emptied = false ∧ result.more = true ∧ result.deleted = final.cycle.deleted)
    : GoesOn world options cycle next (.ended final)
  | listed
    : GoesOn world options cycle next
        (.listed
          { cycle with checked := cycle.checked + 1, listed := cycle.listed + 1 }
          (listing cycle.bucket (next.getD .start) (world.sizes cycle.listed)))

theorem goOn_goesOn (world : BucketWorld κ) (options : EmptyBucketOptions) (cycle : Cycle κ)
    (next : Option (Position κ))
    : GoesOn world options cycle next (goOn world options cycle next) := by
  unfold goOn list
  dsimp only
  split
  · rename_i used
    refine .ended rfl rfl rfl ?_ (unclaimed_exhausted _)
    intro undisturbed
    obtain ⟨deadline, isDeadline, reached⟩ := (Option.any_eq_true _ _).mp used
    have inTime := undisturbed.checks cycle.checked (Nat.lt_succ_self _) deadline isDeadline
    exact absurd (of_decide_eq_true reached) (not_le.mpr inTime)
  · cases answered : world.lists cycle.listed with
    | threw =>
        refine .ended rfl rfl rfl ?_ (unclaimed_throws _)
        exact disturbed_of_list (Nat.lt_succ_self cycle.listed) (by simp [answered])
    | answered status =>
        dsimp only
        split
        · rename_i failed
          refine .ended rfl rfl rfl ?_ (unclaimed_stalls _ _)
          exact disturbed_of_list (Nat.lt_succ_self cycle.listed) (by simp [answered, failed])
        · exact .listed

/-- How the deletion of a page ends: with an error, the cycle is disturbed; otherwise the page is
gone and counted.
-/
inductive Deletes (world : BucketWorld κ) (options : EmptyBucketOptions) (cycle : Cycle κ)
    (page : Listing κ)
    : Except (CycleEnd κ) (Cycle κ) → Prop
  | failed {final : CycleEnd κ} (disturbed : ¬Undisturbed world options final.cycle)
      (dirty : ¬(world.deletes cycle.made).Clean) (made : final.cycle.made = cycle.made + 1)
      (deleted : final.cycle.deleted = cycle.deleted)
      (kept : final.cycle.bucket.Sublist cycle.bucket)
      (unclaimed : ∀ result, final.result = some result →
        result.emptied = false ∧ result.more = true ∧ result.deleted = final.cycle.deleted)
    : Deletes world options cycle page (.error final)
  | deleted (clean : (world.deletes cycle.made).Clean)
    : Deletes world options cycle page
        (.ok
          {
            cycle with
            bucket := cycle.bucket.filter fun key => key ∉ page.keys,
            made := cycle.made + 1,
            deleted := cycle.deleted + page.keys.length
          })

theorem leaves_sublist (answer : DeleteAnswer κ) (batch bucket : List κ)
    : (answer.leaves batch bucket).Sublist bucket := by
  cases answer with
  | threw stays => exact List.filter_sublist
  | answered status text errors stays =>
      simp only [DeleteAnswer.leaves]
      split
      · exact List.filter_sublist
      · exact List.filter_sublist

theorem deletePage_deletes (world : BucketWorld κ) (options : EmptyBucketOptions) (cycle : Cycle κ)
    (page : Listing κ)
    : Deletes world options cycle page (deletePage world cycle page) := by
  have kept := leaves_sublist (world.deletes cycle.made) page.keys cycle.bucket
  have last : cycle.made < cycle.made + 1 := Nat.lt_succ_self _
  unfold deletePage
  dsimp only
  cases answered : world.deletes cycle.made with
  | threw stays =>
      have dirty : ¬(world.deletes cycle.made).Clean := by simp [answered, DeleteAnswer.Clean]
      rw [answered] at kept
      exact .failed (disturbed_of_delete last dirty) dirty rfl rfl kept (unclaimed_throws _)
  | answered status text errors stays =>
      dsimp only
      split
      · rename_i refused
        have dirty : ¬(world.deletes cycle.made).Clean := by
          simp [answered, DeleteAnswer.Clean, refused]
        rw [answered] at kept
        exact .failed (disturbed_of_delete last dirty) dirty rfl rfl kept (unclaimed_stalls _ _)
      · rename_i accepted
        split
        · rename_i reported
          have dirty : ¬(world.deletes cycle.made).Clean := by
            simp [answered, DeleteAnswer.Clean, reported.ne']
          rw [answered] at kept
          exact .failed (disturbed_of_delete last dirty) dirty rfl rfl kept (unclaimed_stalls _ _)
        · rename_i silent
          have clean : status = 200 ∧ errors = 0 :=
            ⟨not_not.mp accepted, Nat.eq_zero_of_not_pos silent⟩
          have wasClean : (world.deletes cycle.made).Clean := by
            simp [answered, DeleteAnswer.Clean, clean]
          simp only [DeleteAnswer.leaves, if_pos clean]
          exact .deleted wasClean

/-- A page that lists what is left of the bucket, behind a position that all of it lies behind. -/
structure Fresh (cycle : Cycle κ) (page : Listing κ) (size : Nat) : Prop where
  sorted : cycle.bucket.Pairwise (· < ·)
  listed : ∃ position, Behind position cycle.bucket ∧ page = listing cycle.bucket position size

/-- A fresh page has the first keys, and a position to go on from while some are left. -/
theorem Fresh.page {page : Listing κ} {size : Nat} (fresh : Fresh cycle page size)
    : page.keys = cycle.bucket.take size
      ∧ Behind (page.next.getD .start) (cycle.bucket.drop size)
      ∧ (page.next = none ↔ cycle.bucket.length ≤ size) := by
  obtain ⟨position, behind, rfl⟩ := fresh.listed
  rw [listing_of_behind behind]
  refine ⟨rfl, ?_, ?_⟩
  · dsimp only
    split
    · exact behind_advance fresh.sorted behind size
    · exact behind_start _
  · dsimp only
    split
    · rename_i cut
      exact iff_of_false (Option.some_ne_none _) (Nat.not_le_of_lt cut)
    · rename_i whole
      exact iff_of_true rfl (Nat.le_of_not_lt whole)

/-- One round of a cycle whose counts are right: it ends soundly, or it goes on with a fresh page
and as many keys fewer as the page had.
-/
inductive Rounds (world : BucketWorld κ) (options : EmptyBucketOptions) (initial : List κ)
    (cycle : Cycle κ) (size : Nat)
    : Onward κ → Prop
  | ended {final : CycleEnd κ} (sound : Sound world options initial final)
    : Rounds world options initial cycle size (.ended final)
  | listed {after : Cycle κ} {page : Listing κ} (counted : Counted world initial after)
      (fresh : Fresh after page (world.sizes cycle.listed))
      (one : after.listed = cycle.listed + 1)
      (rest : after.bucket = cycle.bucket.drop size) (left : cycle.bucket ≠ [])
    : Rounds world options initial cycle size (.listed after page)

/-- What is left after a page, whether it was deleted or had no keys, goes on soundly. -/
theorem rounds_of_goOn {middle : Cycle κ} {size : Nat} {next : Option (Position κ)}
    (distinct : initial.Nodup) (counted : Counted world initial middle)
    (sorted : middle.bucket.Pairwise (· < ·))
    (behind : Behind (next.getD .start) middle.bucket)
    (rest : middle.bucket = cycle.bucket.drop size) (calls : middle.listed = cycle.listed)
    (left : cycle.bucket ≠ [])
    : Rounds world options initial cycle size (goOn world options middle next) := by
  have onward := goOn_goesOn world options middle next
  cases isOnward : goOn world options middle next with
  | ended final =>
      rw [isOnward] at onward
      cases onward with
      | ended bucket deleted made disturbed unclaimed =>
          have same := counted.congr bucket deleted made
          exact .ended (sound_of_disturbed distinct same disturbed unclaimed)
  | listed after page =>
      rw [isOnward] at onward
      cases onward with
      | listed =>
          refine .listed (counted.congr rfl rfl rfl) ⟨sorted, _, behind, ?_⟩ ?_ rest left
          · rw [calls]
          · rw [calls]

theorem round_rounds {page : Listing κ} {size : Nat} (distinct : initial.Nodup)
    (counted : Counted world initial cycle) (fresh : Fresh cycle page size)
    : Rounds world options initial cycle size (round world options cycle page) := by
  obtain ⟨keys, behind, whole⟩ := fresh.page
  unfold round
  split
  · rename_i empty
    -- an empty page leaves everything where it is
    have rest : cycle.bucket = cycle.bucket.drop size := by
      conv_lhs => rw [← List.take_append_drop size cycle.bucket, ← keys, empty, List.nil_append]
    split
    · rename_i isNext
      have nothing : cycle.bucket = [] := by
        rw [keys, List.take_of_length_le (whole.mp isNext)] at empty
        exact empty
      have all : (removed initial cycle.bucket).length = initial.length := by
        have both := length_removed counted.kept distinct
        rw [nothing, List.length_nil, Nat.add_zero] at both
        rw [nothing, both]
      have atMost := counted.atMost
      have exact := counted.exact
      rw [nothing, List.length_nil] at atMost exact
      refine .ended ⟨?_, ?_, ?_, ?_, ?_⟩
      · exact fun _ _ _ => nothing
      · intro result isResult
        cases Option.some.inj isResult
        rfl
      · intro result isResult
        cases Option.some.inj isResult
        rw [all]
        exact atMost
      · intro result isResult clean
        cases Option.some.inj isResult
        rw [all]
        exact exact clean
      · exact fun _ => ⟨_, rfl, rfl⟩
    · rename_i next isNext
      rw [isNext, ← rest] at behind
      have left : cycle.bucket ≠ [] := by
        intro nothing
        have none := whole.mpr (by rw [nothing]; exact Nat.zero_le size)
        exact nomatch isNext.symm.trans none
      exact rounds_of_goOn distinct counted fresh.sorted behind rest rfl left
  · rename_i some
    have left : cycle.bucket ≠ [] := by
      intro nothing
      rw [keys, nothing, List.take_nil] at some
      exact some rfl
    have deletes := deletePage_deletes world options cycle page
    cases isDelete : deletePage world cycle page with
    | error final =>
        rw [isDelete] at deletes
        cases deletes with
        | failed disturbed dirty made deleted kept unclaimed =>
            have still : Counted world initial final.cycle := by
              constructor
              · exact kept.trans counted.kept
              · have bound := counted.atMost
                have fewer := kept.length_le
                omega
              · intro clean
                rw [made] at clean
                exact absurd (clean cycle.made (Nat.lt_succ_self _)) dirty
            exact .ended (sound_of_disturbed distinct still disturbed unclaimed)
    | ok after =>
        rw [isDelete] at deletes
        cases deletes with
        | deleted clean =>
            have apart : cycle.bucket.Nodup := fresh.sorted.imp fun less => ne_of_lt less
            have rest : cycle.bucket.filter (fun key => key ∉ page.keys)
                = cycle.bucket.drop size := by
              rw [keys]
              exact filter_not_mem_take apart size
            have sizes : page.keys.length + (cycle.bucket.drop size).length
                = cycle.bucket.length := by
              rw [keys, ← List.length_append, List.take_append_drop]
            refine rounds_of_goOn distinct ⟨?_, ?_, ?_⟩ ?_ ?_ rest rfl left
            · exact List.filter_sublist.trans counted.kept
            · have bound := counted.atMost
              dsimp only
              rw [rest]
              omega
            · intro allClean
              have bound := counted.exact fun i less => allClean i (Nat.lt_succ_of_lt less)
              dsimp only
              rw [rest]
              omega
            · dsimp only
              exact fresh.sorted.filter _
            · dsimp only
              rw [rest]
              exact behind

-----------------------------------------------------------------------------------------
-- A whole cycle
-----------------------------------------------------------------------------------------

/-- Every listing has keys sooner or later. -/
def KeepsListing {κ : Type*} (world : BucketWorld κ) : Prop :=
  ∀ i, ∃ more, 0 < world.sizes (i + more)

/-- The clock advances at least by every sleep, between two list calls that were refused. -/
def SleepsPass {κ : Type*} (world : BucketWorld κ) : Prop :=
  ∀ i, world.refusedAt i + 1500 ≤ world.refusedAt (i + 1)

/-- A loop has come to an end with enough fuel, and the end is sound. -/
def EndsSoundly (world : BucketWorld κ) (options : EmptyBucketOptions) (initial : List κ)
    (loop : Nat → Option (CycleEnd κ))
    : Prop :=
  ∃ final bound, (∀ fuel ≥ bound, loop fuel = some final) ∧ Sound world options initial final

/-- A round that ends the cycle, or a round whose rest ends it. -/
theorem endsSoundly_work {page : Listing κ} {size : Nat} (distinct : initial.Nodup)
    (counted : Counted world initial cycle) (fresh : Fresh cycle page size)
    (later : ∀ after next, Counted world initial after →
      Fresh after next (world.sizes cycle.listed) → after.listed = cycle.listed + 1 →
      after.bucket = cycle.bucket.drop size → cycle.bucket ≠ [] →
      EndsSoundly world options initial fun fuel => work world options fuel after next)
    : EndsSoundly world options initial fun fuel => work world options fuel cycle page := by
  have rounds : Rounds world options initial cycle size (round world options cycle page) :=
    round_rounds distinct counted fresh
  cases isRound : round world options cycle page with
  | ended final =>
      rw [isRound] at rounds
      cases rounds with
      | ended sound =>
          refine ⟨final, 1, fun fuel enough => ?_, sound⟩
          obtain ⟨more, rfl⟩ := Nat.exists_eq_add_of_le' enough
          simp only [work, isRound]
  | listed after next =>
      rw [isRound] at rounds
      cases rounds with
      | listed counted fresh one rest left =>
          obtain ⟨final, bound, ends, sound⟩ := later after next counted fresh one rest left
          refine ⟨final, bound + 1, fun fuel enough => ?_, sound⟩
          obtain ⟨more, rfl⟩ := Nat.exists_eq_add_of_le' enough
          rw [← Nat.add_assoc]
          simp only [work, isRound]
          exact ends (more + bound) (Nat.le_add_left bound more)

/-- The work comes to an end, by induction on the keys that are left, and within it on the listings
without keys before the next one that has some.
-/
theorem work_ends (distinct : initial.Nodup) (keeps : KeepsListing world) (left wait i : Nat)
    {page : Listing κ}
    (counted : Counted world initial cycle) (fresh : Fresh cycle page (world.sizes i))
    (calls : cycle.listed = i + 1) (size : cycle.bucket.length = left)
    (nears : 0 < world.sizes (i + wait))
    : EndsSoundly world options initial fun fuel => work world options fuel cycle page := by
  induction left using Nat.strong_induction_on generalizing wait i cycle page with
  | _ left fewer =>
    induction wait generalizing i cycle page with
    | zero =>
        refine endsSoundly_work distinct counted fresh ?_
        intro after next counted fresh one rest some
        rw [calls] at fresh one
        obtain ⟨more, later⟩ := keeps (i + 1)
        have positive : 0 < left := size ▸ List.length_pos_iff.mpr some
        have less : after.bucket.length < left := by
          rw [rest, List.length_drop, size]
          rw [Nat.add_zero] at nears
          omega
        exact fewer after.bucket.length less more (i + 1) counted fresh one rfl later
    | succ wait sooner =>
        refine endsSoundly_work distinct counted fresh ?_
        intro after next counted fresh one rest some
        rw [calls] at fresh one
        by_cases keyless : world.sizes i = 0
        · rw [keyless, List.drop_zero] at rest
          rw [Nat.add_comm wait 1, ← Nat.add_assoc] at nears
          exact sooner (i + 1) counted fresh one (rest ▸ size) nears
        · obtain ⟨more, later⟩ := keeps (i + 1)
          have positive : 0 < left := size ▸ List.length_pos_iff.mpr some
          have less : after.bucket.length < left := by
            rw [rest, List.length_drop, size]
            omega
          exact fewer after.bucket.length less more (i + 1) counted fresh one rfl later

/-- How the wait for the credential ends: soundly, or with a first listing of the bucket. -/
inductive Propagated (world : BucketWorld κ) (options : EmptyBucketOptions) (initial : List κ)
    : Onward κ → Prop
  | ended {final : CycleEnd κ} (sound : Sound world options initial final)
    : Propagated world options initial (.ended final)
  | listed {after : Cycle κ} {i : Nat} (untouched : after.bucket = initial)
      (uncounted : after.deleted = 0) (calls : after.listed = i + 1)
    : Propagated world options initial
        (.listed after (listing initial .start (world.sizes i)))

/-- One list call of the wait: it is the last one, or there is time for another. -/
theorem propagate_cases (world : BucketWorld κ) (options : EmptyBucketOptions)
    (distinct : initial.Nodup) (untouched : cycle.bucket = initial)
    (uncounted : cycle.deleted = 0)
    : (∃ onward, Propagated world options initial onward
        ∧ ∀ fuel, propagate world options (fuel + 1) cycle = some onward)
      ∨ world.refusedAt cycle.listed < world.startedAt + options.propagationMs
        ∧ ∀ fuel, propagate world options (fuel + 1) cycle
          = propagate world options fuel { cycle with listed := cycle.listed + 1 } := by
  -- a cycle that ends here ends with a call that failed
  have ends : ∀ final : CycleEnd κ, final.cycle = { cycle with listed := cycle.listed + 1 } →
      world.lists cycle.listed ≠ .answered 200 →
      (∀ result, final.result = some result →
        result.emptied = false ∧ result.more = true ∧ result.deleted = final.cycle.deleted) →
      Propagated world options initial (.ended final) := by
    intro final isCycle failed unclaimed
    refine .ended (sound_of_disturbed distinct ?_ ?_ unclaimed)
    · rw [isCycle]
      exact (counted_untouched untouched uncounted).congr rfl rfl rfl
    · rw [isCycle]
      exact disturbed_of_list (Nat.lt_succ_self cycle.listed) failed
  cases answered : world.lists cycle.listed with
  | threw =>
      left
      refine ⟨.ended (Cycle.throws { cycle with listed := cycle.listed + 1 }), ?_, fun fuel => ?_⟩
      · exact ends _ rfl (by simp [answered]) (unclaimed_throws _)
      · simp only [propagate, list, answered]
  | answered status =>
      by_cases ok : status = 200
      · left
        refine ⟨.listed { cycle with listed := cycle.listed + 1 }
          (listing initial .start (world.sizes cycle.listed)), ?_, fun fuel => ?_⟩
        · exact .listed untouched uncounted rfl
        · simp only [propagate, list, answered, ok, if_true, untouched]
      · have failed : world.lists cycle.listed ≠ .answered 200 := by simp [answered, ok]
        by_cases other : status ≠ 401 ∧ status ≠ 403
        · left
          refine ⟨.ended (Cycle.stalls { cycle with listed := cycle.listed + 1 }
            ("list failed HTTP " ++ toString status)), ?_, fun fuel => ?_⟩
          · exact ends _ rfl failed (unclaimed_stalls _ _)
          · simp only [propagate, list, answered, ok, if_false, if_pos other]
        · by_cases late : world.startedAt + options.propagationMs ≤ world.refusedAt cycle.listed
          · left
            refine ⟨.ended (Cycle.stalls { cycle with listed := cycle.listed + 1 }
              ("credential never became usable within " ++ toString options.propagationMs
                ++ "ms")), ?_, fun fuel => ?_⟩
            · exact ends _ rfl failed (unclaimed_stalls _ _)
            · simp only [propagate, list, answered, ok, if_false, if_neg other, if_pos late]
          · right
            refine ⟨not_le.mp late, fun fuel => ?_⟩
            simp only [propagate, list, answered, ok, if_false, if_neg other, if_neg late]

/-- The wait for the credential comes to an end, by induction on the milliseconds that are left of
it: every sleep takes some of them.
-/
theorem propagate_ends (distinct : initial.Nodup) (passes : SleepsPass world) (left : Nat)
    (untouched : cycle.bucket = initial) (uncounted : cycle.deleted = 0)
    (near : world.startedAt + options.propagationMs - world.refusedAt cycle.listed ≤ left)
    : ∃ onward bound, (∀ fuel ≥ bound, propagate world options fuel cycle = some onward)
      ∧ Propagated world options initial onward := by
  induction left using Nat.strong_induction_on generalizing cycle with
  | _ left sooner =>
    rcases propagate_cases world options distinct untouched uncounted with
      ⟨onward, propagated, reaches⟩ | ⟨early, goesOn⟩
    · refine ⟨onward, 1, fun fuel enough => ?_, propagated⟩
      obtain ⟨more, rfl⟩ := Nat.exists_eq_add_of_le' enough
      exact reaches more
    · have later := passes cycle.listed
      let after := { cycle with listed := cycle.listed + 1 }
      have nearer : world.startedAt + options.propagationMs - world.refusedAt after.listed
          ≤ (left - 1 : Nat) := by
        simp only [after]
        omega
      obtain ⟨onward, bound, reaches, propagated⟩ :=
        sooner (left - 1) (by omega) (show after.bucket = initial from untouched) uncounted nearer
      refine ⟨onward, bound + 1, fun fuel enough => ?_, propagated⟩
      obtain ⟨more, rfl⟩ := Nat.exists_eq_add_of_le' enough
      rw [← Nat.add_assoc, goesOn]
      exact reaches (more + bound) (Nat.le_add_left bound more)

/-- Emptying a bucket comes to an end, and what is said of the bucket then is so. -/
theorem emptyBucketBounded_sound (world : BucketWorld κ) (options : EmptyBucketOptions)
    (bucket : List κ) (sorted : bucket.Pairwise (· < ·)) (keeps : KeepsListing world)
    (passes : SleepsPass world)
    : EndsSoundly world options bucket fun fuel =>
        emptyBucketBounded world options bucket fuel := by
  have distinct : bucket.Nodup := sorted.imp fun less => ne_of_lt less
  let start : Cycle κ := { bucket }
  let left := world.startedAt + options.propagationMs - world.refusedAt start.listed
  obtain ⟨onward, ready, reaches, propagated⟩ := propagate_ends distinct passes left.toNat
    (show start.bucket = bucket from rfl) rfl (Int.self_le_toNat left)
  cases propagated with
  | ended sound =>
      refine ⟨_, ready, fun fuel enough => ?_, sound⟩
      simp only [emptyBucketBounded, reaches fuel enough, start]
  | listed untouched uncounted calls =>
      rename_i after i
      have fresh : Fresh after (listing bucket .start (world.sizes i)) (world.sizes i) :=
        ⟨untouched ▸ sorted, .start, behind_start _, by rw [untouched]⟩
      obtain ⟨more, nears⟩ := keeps i
      have works : EndsSoundly world options bucket fun fuel =>
          work world options fuel after (listing bucket .start (world.sizes i)) :=
        work_ends distinct keeps after.bucket.length more i (counted_untouched untouched uncounted)
          fresh calls rfl nears
      obtain ⟨final, bound, ends, sound⟩ := works
      refine ⟨final, max ready bound, fun fuel enough => ?_, sound⟩
      simp only [emptyBucketBounded, start] at reaches ⊢
      rw [reaches fuel (le_trans (le_max_left _ _) enough)]
      exact ends fuel (le_trans (le_max_right _ _) enough)

end Rounds

/-- A bucket of three keys, listed two at a time. The credential can be used at the third try. -/
def threeKeys : BucketWorld Nat where
  lists call := if call < 2 then .answered 403 else .answered 200
  sizes _ := 2
  deletes _ := .answered 200 "" 0 fun _ => false
  startedAt := 0
  refusedAt call := 1500 * call
  readyAt := 4500
  checkedAt check := 5000 + check

theorem emptyBucketBounded_threeKeys
    : EndsSoundly threeKeys { budgetMs := none } [1, 2, 3] fun fuel =>
        emptyBucketBounded threeKeys { budgetMs := none } [1, 2, 3] fuel :=
  emptyBucketBounded_sound threeKeys { budgetMs := none } [1, 2, 3] (by decide)
    (fun _ => ⟨0, Nat.zero_lt_two⟩) fun call => by
      simp only [threeKeys]
      omega

example
    : (emptyBucketBounded threeKeys { budgetMs := none } [1, 2, 3] 5).map CycleEnd.result
      = some (some { emptied := true, deleted := 3, more := false, stalled := none }) := by
  rfl

end ControlPlane.Buckets
