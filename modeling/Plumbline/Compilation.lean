import Plumbline.Calendar
import Plumbline.Manifest

namespace Plumbline

/-- What a manifest says of itself. -/
structure Header where
  name : String
  description : String
  phase : String
  generatedAt : Moment
deriving DecidableEq, Repr

/-- A manifest, and the names of the rules that were left out of it. -/
structure Compilation (α : Type) where
  manifest : Manifest α
  dropped : List String

namespace Compilation

/-- Parts rules into the first of each name and the names of the others. The names in `taken` count as used. -/
def sift (taken : List String) : List Rule → List Rule × List String
  | [] => ([], [])
  | rule :: rest =>
    if taken.contains rule.name then
      let (kept, dropped) := sift taken rest
      (kept, rule.name :: dropped)
    else
      let (kept, dropped) := sift (rule.name :: taken) rest
      (rule :: kept, dropped)

variable {α : Type}

def ruleCount (compilation : Compilation α) : Nat := compilation.manifest.rules.length

/-- Puts rules into a manifest with the usual weights. Of rules with one name the first stays. -/
def ofRules [Scale α] (header : Header) (rules : List Rule) : Compilation α :=
  let (kept, dropped) := sift [] rules
  { manifest := {
      format := Manifest.supportedFormat
      name := header.name
      description := header.description
      phase := header.phase
      generatedAt := header.generatedAt.text
      resultsPath := none
      weights := Weights.default
      rules := kept }
    dropped := dropped }

end Compilation

end Plumbline
