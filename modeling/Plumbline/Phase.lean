import Plumbline.Phase.Evolution
import Plumbline.Phase.Integration
import Plumbline.Phase.Scaffold
import Plumbline.Phase.Target

namespace Plumbline

/-- A stage of a project that can be validated, with what is asked of it. -/
inductive Phase where
  /-- The skeleton of the project. -/
  | scaffold
  /-- One numbered increment. -/
  | target (number : Nat) (delivery : Delivery)
  /-- Modules built apart come together. -/
  | integration (name : String) (wiring : Wiring)
  /-- A project in use is changed. -/
  | evolution (change : Change)
deriving DecidableEq, Repr

namespace Phase

/-- What manifests and the names of files call a phase. -/
def label : Phase → String
  | scaffold => "scaffold"
  | target number _ => s!"target_{number}"
  | integration name _ => "integration_" ++ String.ofList (Text.slug name.toList)
  | evolution _ => "evolution"

/-- What a validator is called unless another name is given. -/
def validatorName (phase : Phase) : String := "validate_" ++ phase.label

def title : Phase → String
  | scaffold => "Scaffold"
  | target number _ => s!"Target {number}"
  | integration name _ => s!"Integration {name}"
  | evolution _ => "Evolution"

/-- What a validator of a phase is for. -/
def describe (phase : Phase) (spec : Specification) : String :=
  phase.title ++ " conformity of " ++ if spec.projectName.isEmpty then "the project" else spec.projectName

/-- The rules of a phase, in a year that counts as the current one. -/
def rules (phase : Phase) (year : Int32) (spec : Specification) : List Rule :=
  match phase with
  | scaffold => Scaffold.rules spec
  | target number delivery => Target.rules number delivery spec
  | integration name wiring => Integration.rules name wiring spec
  | evolution change => Evolution.rules year change spec

end Phase

end Plumbline
