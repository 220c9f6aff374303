import Mathlib.Data.List.Basic
import Mathlib.Logic.Function.Basic

/-! Worker scripts as the platform keeps them: each upload replaces the bindings of a script, and
leaves the secrets that were put on it.
-/

namespace ControlPlane.Workers

inductive WorkerBinding
  | ai (name : String)
  | d1 (name id : String)
  | r2Bucket (name bucketName : String)
  | plainText (name text : String)
  | secretText (name text : String)
  | assets (name : String)
  | ratelimit (name namespaceId : String) (limit period : Nat)
  | dispatchNamespace (name «namespace» : String)
  | vpcService (name serviceId : String)
  | workflow (name workflowName : String) (className scriptName : Option String)
  | inherit (name : String)
  deriving DecidableEq, Repr

def WorkerBinding.name : WorkerBinding → String
  | .ai name | .d1 name _ | .r2Bucket name _ | .plainText name _ | .secretText name _
  | .assets name | .ratelimit name _ _ _ | .dispatchNamespace name _ | .vpcService name _
  | .workflow name _ _ _ | .inherit name => name

/-- One script: the bindings of its latest upload, and the secrets put on it, by name. -/
structure Script where
  bindings : List WorkerBinding
  secrets : String → Option String

/-- A script has a binding of a name. -/
def Script.Binds (script : Script) (name : String) : Prop :=
  name ∈ script.bindings.map WorkerBinding.name

instance (script : Script) (name : String) : Decidable (script.Binds name) :=
  inferInstanceAs (Decidable (name ∈ script.bindings.map WorkerBinding.name))

/-- The scripts of one dispatch namespace, by name. -/
abbrev Scripts := String → Option Script

/-- PUT of a script: its bindings are replaced, and its secrets stay. -/
def uploadUserWorker (scripts : Scripts) (scriptName : String) (bindings : List WorkerBinding)
    : Scripts :=
  Function.update scripts scriptName
    (some
      { bindings := bindings
        secrets := ((scripts scriptName).map Script.secrets).getD fun _ => none })

/-- PUT of one secret. A script that is not there refuses it. -/
def putScriptSecret (scripts : Scripts) (scriptName name text : String) : Option Scripts :=
  (scripts scriptName).map fun script =>
    Function.update scripts scriptName
      (some { script with secrets := Function.update script.secrets name (some text) })

end ControlPlane.Workers
