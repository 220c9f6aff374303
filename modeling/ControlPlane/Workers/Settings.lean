import ControlPlane.Library.KeyedTables
import ControlPlane.Workers.Bindings

/-! The bindings of one script, by name: what an upload or a settings patch makes of them, and what
a writer makes of the list it sends when it derives some variables anew.
-/

namespace ControlPlane.Workers

open ControlPlane.Library

inductive BindingType
  | ai
  | d1
  | r2Bucket
  | plainText
  | secretText
  | assets
  | ratelimit
  | dispatchNamespace
  | vpcService
  | workflow
  | inherit
  deriving DecidableEq, Repr

def WorkerBinding.type : WorkerBinding → BindingType
  | .ai _ => .ai
  | .d1 _ _ => .d1
  | .r2Bucket _ _ => .r2Bucket
  | .plainText _ _ => .plainText
  | .secretText _ _ => .secretText
  | .assets _ => .assets
  | .ratelimit _ _ _ _ => .ratelimit
  | .dispatchNamespace _ _ => .dispatchNamespace
  | .vpcService _ _ => .vpcService
  | .workflow _ _ _ _ => .workflow
  | .inherit _ => .inherit

/-- The bindings of a script, each under its name. -/
abbrev ScriptBindings := Keyed WorkerBinding.name

/-- One entry of a census: the endpoint returns no values. -/
structure CensusEntry where
  type : BindingType
  name : String
  deriving DecidableEq, Repr

def getScriptBindings (script : ScriptBindings) : List CensusEntry :=
  script.rows.map fun binding => { type := binding.type, name := binding.name }

/-- The names of the secrets among the bindings. -/
def getScriptSecretNames (script : ScriptBindings) : List String :=
  (script.rows.filter fun binding => binding.type = .secretText).map WorkerBinding.name

/-- What a list declares under a name, inherited entries aside. -/
def declared (bindings : List WorkerBinding) (name : String) : Option WorkerBinding :=
  bindings.find? fun binding => binding.type ≠ .inherit ∧ binding.name = name

/-- A script after an upload or a settings patch: what is declared is set, what is inherited stays,
and of the rest only secrets stay.
-/
def ScriptBindings.after (script : ScriptBindings) (desired : List WorkerBinding)
    : ScriptBindings :=
  (script.filter fun binding =>
      .inherit binding.name ∈ desired ∨ binding.type = .secretText).replaceAll
    (desired.filter fun binding => binding.type ≠ .inherit)

theorem get?_after (script : ScriptBindings) (desired : List WorkerBinding) (name : String)
    : (script.after desired).get? name
      = (declared desired name).or
          ((script.get? name).filter fun binding =>
            .inherit name ∈ desired ∨ binding.type = .secretText) := by
  rw [ScriptBindings.after, Keyed.get?_replaceAll, Keyed.get?_filter_eq, List.find?_filter]
  have first
      : (desired.find? fun binding =>
            decide (decide (binding.type ≠ .inherit) = true ∧ decide (binding.name = name) = true))
        = declared desired name := by
    simp only [declared, decide_eq_true_eq]
  have left
      : ((script.get? name).filter fun binding =>
            .inherit binding.name ∈ desired ∨ binding.type = .secretText)
        = (script.get? name).filter fun binding =>
            .inherit name ∈ desired ∨ binding.type = .secretText := by
    cases found : script.get? name with
    | none => rfl
    | some binding => rw [Option.filter_some, Option.filter_some, Keyed.get?_key found]
  rw [← first, ← left]

/-- A list of bindings that declares nothing under a name. -/
theorem declared_eq_none {bindings : List WorkerBinding} {name : String}
    (unnamed : name ∉ bindings.map WorkerBinding.name)
    : declared bindings name = none := by
  refine List.find?_eq_none.mpr fun binding member found => unnamed ?_
  have named : binding.type ≠ .inherit ∧ binding.name = name := by simpa using found
  exact List.mem_map.mpr ⟨binding, member, named.2⟩

theorem declared_append (first second : List WorkerBinding) (name : String)
    : declared (first ++ second) name = (declared first name).or (declared second name) :=
  List.find?_append

/-- The census of a script as a list that keeps everything, apart from some names. -/
def inheritAllBut (left : List String) (census : List CensusEntry) : List WorkerBinding :=
  (census.filter fun entry => entry.name ∉ left).map fun entry => .inherit entry.name

/-- A list carried forward with some variables derived anew: what it had under their names is
dropped, whatever replaces it.
-/
def rederive (owned : List String) (values carried : List WorkerBinding) : List WorkerBinding :=
  (carried.filter fun binding => binding.name ∉ owned) ++ values

/-- Values for the variables that are derived anew: they are declared, under those names. -/
structure ValuesOf (owned : List String) (values : List WorkerBinding) : Prop where
  declares : ∀ binding ∈ values, binding.type ≠ .inherit
  named : ∀ binding ∈ values, binding.name ∈ owned

section Rederive

variable {owned : List String} {values carried : List WorkerBinding} {name : String}

/-- Values declare nothing under another name. -/
theorem ValuesOf.elsewhere (derives : ValuesOf owned values) (other : name ∉ owned)
    : declared values name = none := by
  refine declared_eq_none fun member => ?_
  obtain ⟨value, among, named⟩ := List.mem_map.mp member
  exact other (named ▸ derives.named value among)

theorem declared_rederive_of_mem (own : name ∈ owned)
    : declared (rederive owned values carried) name = declared values name := by
  rw [rederive, declared_append, declared_eq_none, Option.none_or]
  intro member
  obtain ⟨binding, kept, named⟩ := List.mem_map.mp member
  exact absurd own (by simpa [named] using List.of_mem_filter kept)

/-- A variable that is derived anew has its new value, or none: what was there before stays only
where it is a secret.
-/
theorem get?_after_rederive_of_mem {script : ScriptBindings} (derives : ValuesOf owned values)
    (own : name ∈ owned) (plain : ∀ held, script.get? name = some held → held.type ≠ .secretText)
    : (script.after (rederive owned values carried)).get? name = declared values name := by
  have noInherit : .inherit name ∉ rederive owned values carried := by
    intro member
    rcases List.mem_append.mp member with kept | value
    · exact of_decide_eq_true (List.mem_filter.mp kept).2 own
    · exact derives.declares _ value rfl
  rw [get?_after, declared_rederive_of_mem own]
  cases found : script.get? name with
  | none => simp
  | some held => simp [noInherit, Option.filter_some, plain held found]

/-- What is derived anew is set, whatever was there before. -/
theorem get?_after_rederive_of_declared {script : ScriptBindings} {value : WorkerBinding}
    (own : name ∈ owned) (set : declared values name = some value)
    : (script.after (rederive owned values carried)).get? name = some value := by
  rw [get?_after, declared_rederive_of_mem own, set, Option.some_or]

/-- Any other name fares as it does when the list is sent without the new values. -/
theorem get?_after_rederive_of_not_mem {script : ScriptBindings} (derives : ValuesOf owned values)
    (other : name ∉ owned)
    : (script.after (rederive owned values carried)).get? name
      = (script.after carried).get? name := by
  have sameDeclared : declared (rederive owned values carried) name = declared carried name := by
    rw [rederive, declared_append, derives.elsewhere other, Option.or_none, declared, declared,
      List.find?_filter]
    refine congrArg (fun test => carried.find? test) (funext fun binding => ?_)
    by_cases named : binding.name = name
    · simp [named, other]
    · simp [named]
  have sameInherit : .inherit name ∈ rederive owned values carried ↔ .inherit name ∈ carried := by
    rw [rederive, List.mem_append, List.mem_filter]
    constructor
    · intro h
      rcases h with kept | value
      · exact kept.1
      · exact absurd rfl (derives.declares _ value)
    · exact fun member => .inl ⟨member, decide_eq_true other⟩
  simp only [get?_after, sameDeclared, sameInherit]

/-- Values of several variables are values of them all. -/
theorem ValuesOf.append {more : List String} {others : List WorkerBinding}
    (first : ValuesOf owned values) (second : ValuesOf more others)
    : ValuesOf (owned ++ more) (values ++ others) where
  declares binding member := by
    rcases List.mem_append.mp member with among | among
    · exact first.declares binding among
    · exact second.declares binding among
  named binding member := by
    rcases List.mem_append.mp member with among | among
    · exact List.mem_append_left _ (first.named binding among)
    · exact List.mem_append_right _ (second.named binding among)

/-- Deriving other variables after some derives them all at once. -/
theorem rederive_rederive {more : List String} {others : List WorkerBinding}
    (first : ValuesOf owned values) (apart : ∀ var ∈ owned, var ∉ more)
    : rederive more others (rederive owned values carried)
      = rederive (owned ++ more) (values ++ others) carried := by
  have kept : values.filter (fun binding => binding.name ∉ more) = values :=
    List.filter_eq_self.mpr fun binding member =>
      decide_eq_true (apart _ (first.named binding member))
  rw [rederive, rederive, rederive, List.filter_append, List.filter_filter, kept,
    List.append_assoc]
  refine congrArg (fun left => left ++ (values ++ others)) (List.filter_congr fun binding _ => ?_)
  simp [Bool.and_comm]

end Rederive

/-- A list that keeps everything of a script, some names apart, keeps the others as they are. -/
theorem get?_after_inheritAllBut {script : ScriptBindings} {left : List String} {name : String}
    (kept : name ∉ left)
    : (script.after (inheritAllBut left (getScriptBindings script))).get? name
      = script.get? name := by
  have nothing : declared (inheritAllBut left (getScriptBindings script)) name = none := by
    refine List.find?_eq_none.mpr fun binding member => ?_
    obtain ⟨entry, -, same⟩ := List.mem_map.mp member
    simp [← same, WorkerBinding.type]
  rw [get?_after, nothing, Option.none_or]
  cases found : script.get? name with
  | none => rfl
  | some held =>
      have entry : ⟨held.type, name⟩ ∈ getScriptBindings script :=
        List.mem_map.mpr ⟨held, Keyed.get?_mem found, by rw [Keyed.get?_key found]⟩
      have inherits : .inherit name ∈ inheritAllBut left (getScriptBindings script) :=
        List.mem_map.mpr ⟨_, List.mem_filter.mpr ⟨entry, by simpa using kept⟩, rfl⟩
      simp [inherits]

/-- Leaving names out of a census and declaring them is deriving them anew. -/
theorem inheritAllBut_append (left : List String) (census : List CensusEntry)
    (values : List WorkerBinding)
    : inheritAllBut left census ++ values = rederive left values (inheritAllBut left census) := by
  rw [rederive, List.filter_eq_self.mpr fun binding member => ?_]
  obtain ⟨entry, kept, rfl⟩ := List.mem_map.mp member
  exact (List.mem_filter.mp kept).2

/-- A name that is left out is dropped, unless it is a secret. -/
theorem get?_after_inheritAllBut_of_mem {script : ScriptBindings} {left : List String}
    {name : String} (dropped : name ∈ left)
    (plain : ∀ held, script.get? name = some held → held.type ≠ .secretText)
    : (script.after (inheritAllBut left (getScriptBindings script))).get? name = none := by
  have unlisted : name ∉ (inheritAllBut left (getScriptBindings script)).map WorkerBinding.name := by
    intro member
    obtain ⟨binding, among, named⟩ := List.mem_map.mp member
    obtain ⟨entry, kept, same⟩ := List.mem_map.mp among
    have entryName : entry.name = name := by
      rw [← named, ← same]
      rfl
    exact absurd dropped (by simpa [entryName] using List.of_mem_filter kept)
  have notInherited : .inherit name ∉ inheritAllBut left (getScriptBindings script) :=
    fun member => unlisted (List.mem_map.mpr ⟨_, member, rfl⟩)
  rw [get?_after, declared_eq_none unlisted, Option.none_or]
  cases found : script.get? name with
  | none => rfl
  | some held => simp [notInherited, Option.filter_some, plain held found]

/-- A census that is sent back without some names, with some variables derived anew: these have their
new values, the names left out are gone, and everything else is as it was.
-/
theorem get?_after_patch {script : ScriptBindings} {owned left : List String}
    {values : List WorkerBinding} (derives : ValuesOf owned values)
    (plain
      : ∀ name ∈ owned ++ left, ∀ held, script.get? name = some held → held.type ≠ .secretText)
    (name : String)
    : (script.after (rederive owned values (inheritAllBut left (getScriptBindings script)))).get? name
      = if name ∈ owned then declared values name
        else if name ∈ left then none
        else script.get? name := by
  by_cases own : name ∈ owned
  · rw [if_pos own]
    exact get?_after_rederive_of_mem derives own (plain name (List.mem_append_left _ own))
  · rw [if_neg own, get?_after_rederive_of_not_mem derives own]
    by_cases dropped : name ∈ left
    · rw [if_pos dropped]
      exact get?_after_inheritAllBut_of_mem dropped (plain name (List.mem_append_right _ dropped))
    · rw [if_neg dropped]
      exact get?_after_inheritAllBut dropped

end ControlPlane.Workers
