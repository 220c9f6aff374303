import ControlPlane.Modules.Readiness

/-! One round of the wait for the modules, and from it a whole wait: whom it asks again, when it
throws, what it returns, and that it ends.
-/

namespace ControlPlane.Modules

open ControlPlane.Library
open ControlPlane.TenantLifecycle (UnverifiedModule)

-----------------------------------------------------------------------------------------
-- A round
-----------------------------------------------------------------------------------------

/-- The modules of a round that have a verdict. -/
def having (verdict : ModuleReadyVerdict) (results : List Probe) : List String :=
  (results.filter fun probe => probe.verdict = some verdict).map Probe.module

/-- A module's answer lets the wait go on. -/
def Probe.Orderly (probe : Probe) : Prop :=
  probe.verdict ≠ none ∧ probe.verdict ≠ some .misconfigured

theorem mem_having {verdict : ModuleReadyVerdict} {results : List Probe} {moduleName : String}
    : moduleName ∈ having verdict results
      ↔ ∃ probe ∈ results, probe.module = moduleName ∧ probe.verdict = some verdict := by
  simp only [having, List.mem_map, List.mem_filter, decide_eq_true_eq]
  constructor
  · intro h
    obtain ⟨probe, ⟨member, same⟩, named⟩ := h
    exact ⟨probe, member, named, same⟩
  · intro h
    obtain ⟨probe, member, named, same⟩ := h
    exact ⟨probe, ⟨member, same⟩, named⟩

theorem having_cons_of_eq {verdict : ModuleReadyVerdict} {probe : Probe} (rest : List Probe)
    (same : probe.verdict = some verdict)
    : having verdict (probe :: rest) = probe.module :: having verdict rest := by
  simp [having, same]

theorem having_cons_of_ne {verdict other : ModuleReadyVerdict} {probe : Probe} (rest : List Probe)
    (isVerdict : probe.verdict = some other) (apart : other ≠ verdict)
    : having verdict (probe :: rest) = having verdict rest := by
  simp [having, isVerdict, apart]

/-- Orderly results fall into three lists, by induction on the results. -/
theorem having_perm {results : List Probe} (orderly : ∀ probe ∈ results, probe.Orderly)
    : (having .ready results ++ having .unverifiable results ++ having .notVisibleYet results).Perm
        (results.map Probe.module) := by
  induction results with
  | nil => exact .nil
  | cons probe rest ih =>
      have later := ih fun other member => orderly other (List.mem_cons_of_mem _ member)
      obtain ⟨classified, sound⟩ := orderly probe List.mem_cons_self
      cases isVerdict : probe.verdict with
      | none => exact absurd isVerdict classified
      | some verdict =>
          rw [List.map_cons]
          cases verdict with
          | ready =>
              rw [having_cons_of_eq rest isVerdict, having_cons_of_ne rest isVerdict (by simp),
                having_cons_of_ne rest isVerdict (by simp), List.cons_append, List.cons_append]
              exact later.cons probe.module
          | unverifiable =>
              rw [having_cons_of_eq rest isVerdict, having_cons_of_ne rest isVerdict (by simp),
                having_cons_of_ne rest isVerdict (by simp), List.append_assoc, List.cons_append]
              rw [List.append_assoc] at later
              exact List.perm_middle.trans (later.cons probe.module)
          | notVisibleYet =>
              rw [having_cons_of_eq rest isVerdict, having_cons_of_ne rest isVerdict (by simp),
                having_cons_of_ne rest isVerdict (by simp)]
              exact List.perm_middle.trans (later.cons probe.module)
          | misconfigured => exact absurd isVerdict sound

/-- What a round without a failure has added to the lists, and whom it leaves pending. -/
structure Taken (loop next : ReadyLoop) (results : List Probe) : Prop where
  orderly : ∀ probe ∈ results, probe.Orderly
  verified : next.verified = loop.verified ++ having .ready results
  unverified : next.unverified.map UnverifiedModule.module
    = loop.unverified.map UnverifiedModule.module ++ having .unverifiable results
  pending : next.pending = loop.pending ++ having .notVisibleYet results
  attempts : next.attempts = loop.attempts

namespace Taken

variable {loop next : ReadyLoop} {probe : Probe} {rest : List Probe}

theorem orderly_cons {verdict : ModuleReadyVerdict} (isVerdict : probe.verdict = some verdict)
    (sound : verdict ≠ .misconfigured) (later : ∀ other ∈ rest, other.Orderly)
    : ∀ other ∈ probe :: rest, other.Orderly := by
  intro other member
  rcases List.mem_cons.mp member with rfl | inRest
  · exact ⟨by simp [isVerdict], by simp [isVerdict, sound]⟩
  · exact later other inRest

theorem ready (isVerdict : probe.verdict = some .ready)
    (taken : Taken { loop with verified := loop.verified ++ [probe.module] } next rest)
    : Taken loop next (probe :: rest) where
  orderly := orderly_cons isVerdict (by simp) taken.orderly
  verified := by
    rw [taken.verified, having_cons_of_eq rest isVerdict, List.append_assoc, List.singleton_append]
  unverified := by
    rw [taken.unverified, having_cons_of_ne rest isVerdict (by simp)]
  pending := by
    rw [taken.pending, having_cons_of_ne rest isVerdict (by simp)]
  attempts := taken.attempts

theorem unverifiable {detail script : String} (isVerdict : probe.verdict = some .unverifiable)
    (taken : Taken
      {
        loop with
        unverified := loop.unverified ++ [{ module := probe.module, detail, script }]
      } next rest)
    : Taken loop next (probe :: rest) where
  orderly := orderly_cons isVerdict (by simp) taken.orderly
  verified := by
    rw [taken.verified, having_cons_of_ne rest isVerdict (by simp)]
  unverified := by
    rw [taken.unverified, having_cons_of_eq rest isVerdict, List.map_append, List.append_assoc]
    rfl
  pending := by
    rw [taken.pending, having_cons_of_ne rest isVerdict (by simp)]
  attempts := taken.attempts

theorem notVisibleYet (isVerdict : probe.verdict = some .notVisibleYet)
    (taken : Taken { loop with pending := loop.pending ++ [probe.module] } next rest)
    : Taken loop next (probe :: rest) where
  orderly := orderly_cons isVerdict (by simp) taken.orderly
  verified := by
    rw [taken.verified, having_cons_of_ne rest isVerdict (by simp)]
  unverified := by
    rw [taken.unverified, having_cons_of_ne rest isVerdict (by simp)]
  pending := by
    rw [taken.pending, having_cons_of_eq rest isVerdict, List.append_assoc, List.singleton_append]
  attempts := taken.attempts

end Taken

/-- Where all answers have verdicts, taking them fails on a misconfigured module and on nothing
else, by induction on the results.
-/
theorem takeResults_cases (attempts : Nat) (elapsedMs : Int) (loop : ReadyLoop)
    {results : List Probe} (classified : ∀ probe ∈ results, probe.verdict ≠ none)
    : (∃ error, takeResults attempts elapsedMs loop results = .error error
        ∧ ∃ probe ∈ results, probe.verdict = some .misconfigured)
      ∨ ∃ next, takeResults attempts elapsedMs loop results = .ok next
        ∧ Taken loop next results := by
  induction results generalizing loop with
  | nil =>
      refine .inr ⟨loop, rfl, ?_⟩
      constructor <;> simp [having]
  | cons probe rest ih =>
      have read : ∀ other ∈ rest, other.verdict ≠ none :=
        fun other member => classified other (List.mem_cons_of_mem _ member)
      cases isAnswer : probe.answer with
      | failed =>
          refine absurd ?_ (classified probe List.mem_cons_self)
          simp only [Probe.verdict, isAnswer]
      | answered status text =>
          cases isVerdict : probe.verdict with
          | none => exact absurd isVerdict (classified probe List.mem_cons_self)
          | some verdict =>
              cases verdict with
              | misconfigured =>
                  refine .inl ⟨misconfiguredError probe status text attempts elapsedMs, ?_, probe,
                    List.mem_cons_self, isVerdict⟩
                  simp only [takeResults, isAnswer, isVerdict]
              | ready =>
                  simp only [takeResults, isAnswer, isVerdict]
                  rcases ih { loop with verified := loop.verified ++ [probe.module] } read with
                    ⟨error, failed, other, member, bad⟩ | ⟨next, took, taken⟩
                  · exact .inl ⟨error, failed, other, List.mem_cons_of_mem _ member, bad⟩
                  · exact .inr ⟨next, took, taken.ready isVerdict⟩
              | unverifiable =>
                  simp only [takeResults, isAnswer, isVerdict]
                  rcases ih _ read with ⟨error, failed, other, member, bad⟩ | ⟨next, took, taken⟩
                  · exact .inl ⟨error, failed, other, List.mem_cons_of_mem _ member, bad⟩
                  · exact .inr ⟨next, took, taken.unverifiable isVerdict⟩
              | notVisibleYet =>
                  simp only [takeResults, isAnswer, isVerdict]
                  rcases ih { loop with pending := loop.pending ++ [probe.module] } read with
                    ⟨error, failed, other, member, bad⟩ | ⟨next, took, taken⟩
                  · exact .inl ⟨error, failed, other, List.mem_cons_of_mem _ member, bad⟩
                  · exact .inr ⟨next, took, taken.notVisibleYet isVerdict⟩

section Loop

variable (world : ReadyWorld) (catalog : List TenantModuleSpec) (deadlineMs : Int)

/-- How long the wait has lasted after an attempt. -/
def elapsedAfter (attempts : Nat) : Int :=
  world.now attempts - world.now 0

def notProbed : List String :=
  (catalog.filter fun spec => !reachesRunpod spec).map TenantModuleSpec.module

/-- What the wait returns after an attempt. -/
def readinessAt (next : ReadyLoop) (attempts : Nat) : ModuleReadiness where
  verified := next.verified
  unverified := next.unverified
  unconfirmed := next.pending
  notProbed := notProbed catalog
  attempts := attempts
  elapsedMs := elapsedAfter world attempts

/-- A round throws, or returns, or sleeps within the deadline. -/
inductive Turned (loop : ReadyLoop) : Turn → Prop
  | rejected {probe : Probe} (asked : probe ∈ probes world loop) (unread : probe.verdict = none)
    : Turned loop (.ended (.threw .probe))
  | misconfigured {probe : Probe} {error : TenantModuleError} (asked : probe ∈ probes world loop)
      (bad : probe.verdict = some .misconfigured)
    : Turned loop (.ended (.threw (.module error)))
  | returned {next : ReadyLoop}
      (taken : Taken { loop with attempts := loop.attempts + 1, pending := [] } next
        (probes world loop))
    : Turned loop (.ended (.returned (readinessAt world catalog next (loop.attempts + 1))))
  | sleeps {next : ReadyLoop}
      (taken : Taken { loop with attempts := loop.attempts + 1, pending := [] } next
        (probes world loop))
      (inTime : elapsedAfter world (loop.attempts + 1) + backoffAfter (loop.attempts + 1)
        < deadlineMs)
    : Turned loop
        (.sleeps
          {
            elapsedMs := elapsedAfter world (loop.attempts + 1),
            wait := backoffAfter (loop.attempts + 1)
          } next)

theorem turn_turned (loop : ReadyLoop)
    : Turned world catalog deadlineMs loop (turn world catalog deadlineMs loop) := by
  unfold turn
  dsimp only
  split
  · rename_i rejects
    obtain ⟨probe, asked, unread⟩ := List.any_eq_true.mp rejects
    exact .rejected asked (of_decide_eq_true unread)
  · rename_i resolves
    have classified : ∀ probe ∈ probes world loop, probe.verdict ≠ none := by
      intro probe asked unread
      exact resolves (List.any_eq_true.mpr ⟨probe, asked, decide_eq_true unread⟩)
    rcases takeResults_cases (loop.attempts + 1) (world.now (loop.attempts + 1) - world.now 0)
        { loop with attempts := loop.attempts + 1, pending := [] } classified with
      ⟨error, failed, probe, asked, bad⟩ | ⟨next, took, taken⟩
    · rw [failed]
      exact .misconfigured asked bad
    · rw [took]
      dsimp only
      split
      · exact .returned taken
      · rename_i goesOn
        push Not at goesOn
        exact .sleeps taken goesOn.2

-----------------------------------------------------------------------------------------
-- A run
-----------------------------------------------------------------------------------------

/-- The last time a module was asked. -/
def lastProbe (rounds : List (List Probe)) (moduleName : String) : Option Probe :=
  (rounds.flatten.filter fun probe => probe.module = moduleName).getLast?

def LastVerdict (rounds : List (List Probe)) (moduleName : String) (verdict : ModuleReadyVerdict)
    : Prop :=
  ∃ probe, lastProbe rounds moduleName = some probe ∧ probe.verdict = some verdict

/-- A round asks only modules that could not see the key in the round before. -/
def Reprobes (earlier later : List Probe) : Prop :=
  ∀ probe ∈ later, ∃ last ∈ earlier,
    last.module = probe.module ∧ last.verdict = some .notVisibleYet

/-- An answer that ends the wait. -/
def Probe.Ends (probe : Probe) : Prop :=
  probe.verdict = none ∨ probe.verdict = some .misconfigured

/-- What the rest of a wait returns, by what it had when it came to the loop. -/
structure Rest (loop : ReadyLoop) (rounds : List (List Probe)) (readiness : ModuleReadiness)
    (verified unverified : List String)
    : Prop where
  isVerified : readiness.verified = loop.verified ++ verified
  isUnverified : readiness.unverified.map UnverifiedModule.module
    = loop.unverified.map UnverifiedModule.module ++ unverified
  parts : (verified ++ unverified ++ readiness.unconfirmed).Perm loop.pending
  readyLast : ∀ moduleName ∈ verified, LastVerdict rounds moduleName .ready
  absentLast : ∀ moduleName ∈ unverified, LastVerdict rounds moduleName .unverifiable
  waitingLast : ∀ moduleName ∈ readiness.unconfirmed,
    LastVerdict rounds moduleName .notVisibleYet
  others : readiness.notProbed = notProbed catalog

/-- A wait from a place in the loop on. -/
structure Waits (loop : ReadyLoop) (run : ReadyRun) : Prop where
  asks : ∃ later, run.rounds = probes world loop :: later
  asked : ∀ probe ∈ run.rounds.flatten, probe.module ∈ loop.pending
  chain : run.rounds.IsChain Reprobes
  sleeps : ∀ sleep ∈ run.sleeps, sleep.elapsedMs + sleep.wait < deadlineMs
  throws : (∃ failure, run.outcome = .threw failure) ↔ ∃ probe ∈ run.rounds.flatten, probe.Ends
  returns : ∀ readiness, run.outcome = .returned readiness →
    ∃ verified unverified, Rest catalog loop run.rounds readiness verified unverified

variable {world catalog deadlineMs}

theorem mem_probes {loop : ReadyLoop} {probe : Probe} (asked : probe ∈ probes world loop)
    : probe.module ∈ loop.pending := by
  obtain ⟨moduleName, member, rfl⟩ := List.mem_map.mp asked
  exact member

theorem map_probes (world : ReadyWorld) (loop : ReadyLoop)
    : (probes world loop).map Probe.module = loop.pending := by
  simp [probes, Function.comp_def]

/-- In a round each module is asked once. -/
theorem filter_probes {results : List Probe} {probe : Probe}
    (distinct : (results.map Probe.module).Nodup) (asked : probe ∈ results)
    : results.filter (fun other => other.module = probe.module) = [probe] := by
  obtain ⟨before, after, rfl⟩ := List.append_of_mem asked
  rw [List.map_append, List.map_cons, List.nodup_middle, List.nodup_cons,
    List.mem_append] at distinct
  have none_before : before.filter (fun other => other.module = probe.module) = [] := by
    refine List.filter_eq_nil_iff.mpr fun other member same => distinct.1 (.inl ?_)
    rw [← of_decide_eq_true same]
    exact List.mem_map_of_mem member
  have none_after : after.filter (fun other => other.module = probe.module) = [] := by
    refine List.filter_eq_nil_iff.mpr fun other member same => distinct.1 (.inr ?_)
    rw [← of_decide_eq_true same]
    exact List.mem_map_of_mem member
  rw [List.filter_append, List.filter_cons_of_pos (by simp), none_before, none_after,
    List.nil_append]

/-- A module that is asked once in a round, and never after it, has its last answer there. -/
theorem lastVerdict_of_first {loop : ReadyLoop} {later : List (List Probe)} {moduleName : String}
    {verdict : ModuleReadyVerdict} (distinct : loop.pending.Nodup)
    (had : moduleName ∈ having verdict (probes world loop))
    (never : ∀ probe ∈ later.flatten, probe.module ≠ moduleName)
    : LastVerdict (probes world loop :: later) moduleName verdict := by
  obtain ⟨probe, asked, rfl, same⟩ := mem_having.mp had
  have silent : later.flatten.filter (fun other => other.module = probe.module) = [] :=
    List.filter_eq_nil_iff.mpr fun other member named =>
      never other member (of_decide_eq_true named)
  refine ⟨probe, ?_, same⟩
  rw [← map_probes world] at distinct
  rw [lastProbe, List.flatten_cons, List.filter_append, filter_probes distinct asked, silent]
  rfl

/-- A later answer is the last one, whatever was answered before. -/
theorem LastVerdict.cons {rounds : List (List Probe)} {moduleName : String}
    {verdict : ModuleReadyVerdict} (last : LastVerdict rounds moduleName verdict)
    (round : List Probe)
    : LastVerdict (round :: rounds) moduleName verdict := by
  obtain ⟨probe, found, same⟩ := last
  refine ⟨probe, ?_, same⟩
  rw [lastProbe, List.flatten_cons, List.filter_append, List.getLast?_append]
  rw [lastProbe] at found
  rw [found, Option.some_or]

/-- A round that ends the wait with what it has. -/
theorem waits_returned {loop next : ReadyLoop} (distinct : loop.pending.Nodup)
    (taken : Taken { loop with attempts := loop.attempts + 1, pending := [] } next
      (probes world loop))
    : Waits world catalog deadlineMs loop
        {
          outcome := .returned (readinessAt world catalog next (loop.attempts + 1)),
          rounds := [probes world loop],
          sleeps := []
        } where
  asks := ⟨[], rfl⟩
  asked := by
    intro probe member
    rw [List.flatten_singleton] at member
    exact mem_probes member
  chain := .singleton _
  sleeps := nofun
  throws := by
    constructor
    · intro h
      obtain ⟨failure, thrown⟩ := h
      exact nomatch thrown
    · intro h
      obtain ⟨probe, member, ends⟩ := h
      rw [List.flatten_singleton] at member
      obtain ⟨classified, sound⟩ := taken.orderly probe member
      exact absurd ends (not_or.mpr ⟨classified, sound⟩)
  returns := by
    intro readiness returned
    obtain rfl := ReadyOutcome.returned.inj returned
    refine ⟨having .ready (probes world loop), having .unverifiable (probes world loop), ?_⟩
    have waiting : next.pending = having .notVisibleYet (probes world loop) := by
      rw [taken.pending, List.nil_append]
    constructor
    · exact taken.verified
    · exact taken.unverified
    · rw [readinessAt, waiting, ← map_probes world loop]
      exact having_perm taken.orderly
    · exact fun moduleName had => lastVerdict_of_first distinct had (by simp)
    · exact fun moduleName had => lastVerdict_of_first distinct had (by simp)
    · intro moduleName had
      rw [readinessAt, waiting] at had
      exact lastVerdict_of_first distinct had (by simp)
    · rfl

/-- A round that leaves the wait to a later one. -/
theorem waits_sleeps {loop next : ReadyLoop} {run : ReadyRun} (distinct : loop.pending.Nodup)
    (taken : Taken { loop with attempts := loop.attempts + 1, pending := [] } next
      (probes world loop))
    (inTime : elapsedAfter world (loop.attempts + 1) + backoffAfter (loop.attempts + 1)
      < deadlineMs)
    (later : Waits world catalog deadlineMs next run)
    : Waits world catalog deadlineMs loop
        {
          run with
          rounds := probes world loop :: run.rounds,
          sleeps :=
            {
              elapsedMs := elapsedAfter world (loop.attempts + 1),
              wait := backoffAfter (loop.attempts + 1)
            } :: run.sleeps
        } := by
  have waiting : next.pending = having .notVisibleYet (probes world loop) := by
    rw [taken.pending, List.nil_append]
  have parts := (having_perm taken.orderly).trans (.of_eq (map_probes world loop))
  constructor
  · exact ⟨run.rounds, rfl⟩
  · intro probe member
    rcases List.mem_append.mp (List.flatten_cons ▸ member) with now | after
    · exact mem_probes now
    · have stillPending := later.asked probe after
      rw [waiting] at stillPending
      exact parts.subset (List.mem_append_right _ stillPending)
  · obtain ⟨rest, isRounds⟩ := later.asks
    rw [isRounds]
    refine List.isChain_cons_cons.mpr ⟨?_, isRounds ▸ later.chain⟩
    intro probe asked
    have stillPending := mem_probes asked
    rw [waiting] at stillPending
    exact mem_having.mp stillPending
  · intro sleep member
    rcases List.mem_cons.mp member with rfl | after
    · exact inTime
    · exact later.sleeps sleep after
  · rw [later.throws]
    constructor
    · intro h
      obtain ⟨probe, member, ends⟩ := h
      exact ⟨probe, List.flatten_cons ▸ List.mem_append_right _ member, ends⟩
    · intro h
      obtain ⟨probe, member, ends⟩ := h
      rcases List.mem_append.mp (List.flatten_cons ▸ member) with now | after
      · obtain ⟨classified, sound⟩ := taken.orderly probe now
        exact absurd ends (not_or.mpr ⟨classified, sound⟩)
      · exact ⟨probe, after, ends⟩
  · intro readiness returned
    obtain ⟨verified, unverified, rest⟩ := later.returns readiness returned
    have onePlace := parts.nodup_iff.mpr distinct
    -- a module with a verdict is not asked again
    have never : ∀ moduleName ∈ having .ready (probes world loop)
          ++ having .unverifiable (probes world loop),
        ∀ probe ∈ run.rounds.flatten, probe.module ≠ moduleName := by
      intro moduleName had probe asked h
      obtain rfl := h
      have stillPending := later.asked probe asked
      rw [waiting] at stillPending
      exact (List.nodup_append.mp onePlace).2.2 _ had _ stillPending rfl
    refine ⟨having .ready (probes world loop) ++ verified,
      having .unverifiable (probes world loop) ++ unverified, ?_⟩
    constructor
    · rw [rest.isVerified, taken.verified, List.append_assoc]
    · rw [rest.isUnverified, taken.unverified, List.append_assoc]
    · have restParts := rest.parts
      rw [waiting] at restParts
      refine List.Perm.trans ?_ ((restParts.append_left _).trans parts)
      rw [List.perm_iff_count]
      intro moduleName
      simp only [List.count_append]
      omega
    · intro moduleName member
      rcases List.mem_append.mp member with now | after
      · exact lastVerdict_of_first distinct now (never moduleName (List.mem_append_left _ now))
      · exact (rest.readyLast moduleName after).cons _
    · intro moduleName member
      rcases List.mem_append.mp member with now | after
      · exact lastVerdict_of_first distinct now (never moduleName (List.mem_append_right _ now))
      · exact (rest.absentLast moduleName after).cons _
    · intro moduleName member
      exact (rest.waitingLast moduleName member).cons _
    · exact rest.others

theorem waits_threw {loop : ReadyLoop} {failure : ReadyFailure} {probe : Probe}
    (asked : probe ∈ probes world loop) (ends : probe.Ends)
    : Waits world catalog deadlineMs loop
        { outcome := .threw failure, rounds := [probes world loop], sleeps := [] } where
  asks := ⟨[], rfl⟩
  asked := by
    intro other member
    rw [List.flatten_singleton] at member
    exact mem_probes member
  chain := .singleton _
  sleeps := nofun
  throws := by
    rw [List.flatten_singleton]
    exact ⟨fun _ => ⟨probe, asked, ends⟩, fun _ => ⟨failure, rfl⟩⟩
  returns := nofun

/-- Every wait that ends is in order, by induction on the rounds. -/
theorem rounds_waits {fuel : Nat} {loop : ReadyLoop} {run : ReadyRun}
    (distinct : loop.pending.Nodup)
    (ended : rounds world catalog deadlineMs fuel loop = some run)
    : Waits world catalog deadlineMs loop run := by
  induction fuel generalizing loop run with
  | zero => exact nomatch ended
  | succ fuel ih =>
      rw [rounds] at ended
      have turned := turn_turned world catalog deadlineMs loop
      cases isTurn : turn world catalog deadlineMs loop with
      | ended outcome =>
          rw [isTurn] at ended turned
          obtain rfl := Option.some.inj ended
          cases turned with
          | rejected asked unread => exact waits_threw asked (.inl unread)
          | misconfigured asked bad => exact waits_threw asked (.inr bad)
          | returned taken => exact waits_returned distinct taken
      | sleeps sleep next =>
          rw [isTurn] at ended turned
          obtain ⟨after, later, rfl⟩ := Option.map_eq_some_iff.mp ended
          cases turned with
          | sleeps taken inTime =>
              have parts := (having_perm taken.orderly).trans
                (.of_eq (map_probes world loop))
              have remains : next.pending.Nodup := by
                rw [taken.pending, List.nil_append]
                exact (List.nodup_append.mp (parts.nodup_iff.mpr distinct)).2.1
              exact waits_sleeps distinct taken inTime (ih remains later)

-----------------------------------------------------------------------------------------
-- The end of the wait
-----------------------------------------------------------------------------------------

/-- The clock advances at least by each sleep. -/
def Advances (world : ReadyWorld) : Prop :=
  ∀ attempts, 1 ≤ attempts → world.now attempts + backoffAfter attempts ≤ world.now (attempts + 1)

theorem backoffAfter_bounds (attempts : Nat)
    : 250 ≤ backoffAfter attempts ∧ backoffAfter attempts ≤ 2000 := by
  have each : ∀ place < 4, 250 ≤ MODULE_READY_BACKOFF_MS.getD place 0
      ∧ MODULE_READY_BACKOFF_MS.getD place 0 ≤ 2000 := by
    decide
  refine each _ ?_
  simp only [List.length_cons, List.length_nil, MODULE_READY_BACKOFF_MS]
  omega

/-- With as much fuel as milliseconds are left, the wait ends, by induction on the fuel: every
sleep takes some of them.
-/
theorem rounds_end (advances : Advances world) {fuel : Nat} {loop : ReadyLoop}
    (enough : deadlineMs - elapsedAfter world (loop.attempts + 1) < fuel)
    (positive : 0 < fuel)
    : ∃ run, rounds world catalog deadlineMs fuel loop = some run := by
  induction fuel generalizing loop with
  | zero => exact absurd positive (Nat.lt_irrefl 0)
  | succ fuel ih =>
      rw [rounds]
      have turned := turn_turned world catalog deadlineMs loop
      cases isTurn : turn world catalog deadlineMs loop with
      | ended outcome => exact ⟨_, rfl⟩
      | sleeps sleep next =>
          rw [isTurn] at turned
          cases turned with
          | sleeps taken inTime =>
              have later := advances (loop.attempts + 1) (Nat.le_add_left 1 _)
              have least := (backoffAfter_bounds (loop.attempts + 1)).1
              have counts : next.attempts = loop.attempts + 1 := taken.attempts
              have less : deadlineMs - elapsedAfter world (next.attempts + 1) < fuel := by
                rw [counts]
                simp only [elapsedAfter] at enough inTime ⊢
                omega
              have more : 0 < fuel := by
                simp only [elapsedAfter] at enough inTime
                omega
              obtain ⟨run, ended⟩ := ih less more
              dsimp only
              rw [ended]
              exact ⟨_, rfl⟩

/-- More fuel changes nothing, by induction on the fuel. -/
theorem rounds_succ {fuel : Nat} {loop : ReadyLoop} {run : ReadyRun}
    (ended : rounds world catalog deadlineMs fuel loop = some run)
    : rounds world catalog deadlineMs (fuel + 1) loop = some run := by
  induction fuel generalizing loop run with
  | zero => exact nomatch ended
  | succ fuel ih =>
      rw [rounds] at ended ⊢
      cases isTurn : turn world catalog deadlineMs loop with
      | ended outcome =>
          rw [isTurn] at ended
          exact ended
      | sleeps sleep next =>
          rw [isTurn] at ended
          obtain ⟨after, later, rfl⟩ := Option.map_eq_some_iff.mp ended
          dsimp only
          rw [ih later]
          rfl

theorem rounds_le {fuel more : Nat} {loop : ReadyLoop} {run : ReadyRun} (less : fuel ≤ more)
    (ended : rounds world catalog deadlineMs fuel loop = some run)
    : rounds world catalog deadlineMs more loop = some run := by
  induction more, less using Nat.le_induction with
  | base => exact ended
  | succ more _ ih => exact rounds_succ ih

end Loop

end ControlPlane.Modules
