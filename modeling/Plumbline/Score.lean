import Plumbline.Tally

namespace Plumbline

/-- Numbers that scores can be computed in. -/
class Scale (α : Type) extends Add α, Sub α, Mul α, Div α, LE α, LT α where
  natural : Nat → α
  /-- The nearest whole number; a half goes away from nought. -/
  round : α → α
  decideLe : DecidableLE α
  decideLt : DecidableLT α

namespace Scale

variable {α : Type} [Scale α]

instance : DecidableLE α := decideLe

instance : DecidableLT α := decideLt

/-- The quotient of two whole numbers. -/
def ratio (a b : Nat) : α := natural a / natural b

/-- The nearest number between two bounds. There is none when the bounds are out of order or cannot be compared. -/
def clamp? (low high x : α) : Option α :=
  if low ≤ high then some (if x < low then low else if high < x then high else x) else none

/-- The number itself if it is not below nought. -/
def orNought (x : α) : α := if natural 0 ≤ x then x else natural 0

def roundHundredths (x : α) : α := round (x * natural 100) / natural 100

end Scale

instance : Scale Float where
  natural := Float.ofNat
  round := Float.round
  decideLe := Float.decLe
  decideLt := Float.decLt

instance : Scale Rat where
  natural n := n
  round q := if 0 ≤ q then (q + 1 / 2).floor else -(1 / 2 - q).floor
  decideLe := fun _ _ => inferInstance
  decideLt := fun _ _ => inferInstance

/-- How much an issue weighs: a number for its severity times one for its category. -/
structure Weights (α : Type) where
  severity : PerSeverity α
  category : PerCategory α
deriving DecidableEq, Repr

namespace Weights

variable {α : Type} [Scale α]

def defaultSeverity : PerSeverity α where
  critical := Scale.natural 15
  high := Scale.natural 8
  medium := Scale.natural 2
  low := Scale.natural 1

def defaultCategory : PerCategory α where
  layout := Scale.natural 1
  content := Scale.ratio 15 10
  models := Scale.natural 2
  dependencies := Scale.ratio 12 10
  api := Scale.ratio 13 10

def default : Weights α := ⟨defaultSeverity, defaultCategory⟩

def penalty (weights : Weights α) (issue : Issue) : α :=
  weights.severity.of issue.severity * weights.category.of issue.category

def totalPenalty (weights : Weights α) (issues : List Issue) : α :=
  issues.foldl (fun sum issue => sum + weights.penalty issue) (Scale.natural 0)

def severityToJson (table : PerSeverity Float) : Json := .object [
  ("CRITICAL", .float table.critical), ("HIGH", .float table.high), ("MEDIUM", .float table.medium),
  ("LOW", .float table.low)]

def readSeverity? (manner : Json.Manner) (v : Json) : Option (PerSeverity Float) := do
  let [critical, high, medium, low] ← v.recordIn? manner ["CRITICAL", "HIGH", "MEDIUM", "LOW"] | none
  let fallback : PerSeverity Float := defaultSeverity
  return {
    critical := ← critical.withDefault Json.double? fallback.critical
    high := ← high.withDefault Json.double? fallback.high
    medium := ← medium.withDefault Json.double? fallback.medium
    low := ← low.withDefault Json.double? fallback.low }

def categoryToJson (table : PerCategory Float) : Json := .object [
  ("STRUCTURE", .float table.layout), ("CONTENT", .float table.content), ("MODELS", .float table.models),
  ("DEPENDENCIES", .float table.dependencies), ("API", .float table.api)]

def readCategory? (manner : Json.Manner) (v : Json) : Option (PerCategory Float) := do
  let [layout, content, models, dependencies, api] ←
    v.recordIn? manner ["STRUCTURE", "CONTENT", "MODELS", "DEPENDENCIES", "API"] | none
  let fallback : PerCategory Float := defaultCategory
  return {
    layout := ← layout.withDefault Json.double? fallback.layout
    content := ← content.withDefault Json.double? fallback.content
    models := ← models.withDefault Json.double? fallback.models
    dependencies := ← dependencies.withDefault Json.double? fallback.dependencies
    api := ← api.withDefault Json.double? fallback.api }

def toJson (weights : Weights Float) : Json := .object [
  ("severity", severityToJson weights.severity), ("category", categoryToJson weights.category)]

def ofJson? (v : Json) : Option (Weights Float) := do
  let [severity, category] ← v.record? ["severity", "category"] | none
  return {
    severity := ← severity.withDefault (readSeverity? .plain) defaultSeverity
    category := ← category.withDefault (readCategory? .plain) defaultCategory }

end Weights

namespace Score

variable {α : Type} [Scale α]

/-- No profile takes more than this share of the score away. -/
def largestFactor : α := Scale.ratio 1 2

/-- The share of the score that a penalty takes away: all of it at ten points for each failed rule, but no more than the
cap. A cap that is not a number leaves no share to choose from. -/
def factor? (penalty : α) (failed : Nat) (cap : α) : Option α :=
  if failed = 0 then some (Scale.natural 0)
  else do
    let cap ← Scale.clamp? (Scale.natural 0) largestFactor cap
    Scale.clamp? (Scale.natural 0) cap (penalty / (Scale.natural failed * Scale.natural 10))

/-- The percentage of rules that pass. -/
def base (tally : Tally) : α := Scale.natural tally.passed / Scale.natural tally.total * Scale.natural 100

/-- The score of a run in percent: the share of the rules that pass, less the penalty of the issues. -/
def score? (tally : Tally) (weights : Weights α) (cap : α) : Option α :=
  if tally.failed = 0 then some (Scale.natural 100)
  else (factor? (weights.totalPenalty tally.issues) tally.failed cap).map fun factor =>
    Scale.roundHundredths (Scale.orNought (base tally * (Scale.natural 1 - factor)))

end Score

/-- A score beside the least one that passes. -/
structure Verdict (α : Type) where
  score : α
  threshold : α
  passed : Bool
deriving DecidableEq, Repr

namespace Verdict

variable {α : Type} [Scale α]

def compare (score threshold : α) : Verdict α := ⟨score, threshold, threshold ≤ score⟩

/-- What a program that reports the verdict exits with. -/
def exitCode (verdict : Verdict α) : Nat := if verdict.passed then 0 else 1

def toJson (verdict : Verdict Float) : Json := .object [
  ("score", .float verdict.score), ("threshold", .float verdict.threshold), ("passed", .bool verdict.passed)]

def ofJson? (v : Json) : Option (Verdict Float) := do
  let [score, threshold, passed] ← v.record? ["score", "threshold", "passed"] | none
  return {
    score := ← score.required Json.double?
    threshold := ← threshold.required Json.double?
    passed := ← passed.required Json.flag? }

end Verdict

end Plumbline
