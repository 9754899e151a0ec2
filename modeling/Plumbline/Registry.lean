import Plumbline.Manifest

namespace Plumbline

/-- A rule that is ready to be carried out. A run that breaks off says why. -/
structure LinkedRule where
  name : String
  description : String
  severity : Severity
  category : Category
  run : Site → Except String (List Issue)

def LinkedRule.ofRule (rule : Rule) : LinkedRule where
  name := rule.name
  description := rule.description
  severity := rule.severity
  category := rule.category
  run site := (rule.check.run site).mapError CheckError.message

/-- Rules of distinct names, and the names that were turned away. -/
structure Registry where
  rules : List LinkedRule
  rejected : List String
  distinct : (rules.map LinkedRule.name).Nodup

namespace Registry

def empty : Registry := ⟨[], [], .nil⟩

def names (registry : Registry) : List String := registry.rules.map LinkedRule.name

/-- Adds a rule unless its name is taken. -/
def register (registry : Registry) (rule : LinkedRule) : Registry :=
  if fresh : rule.name ∈ registry.rules.map LinkedRule.name then
    { registry with rejected := registry.rejected ++ [rule.name] }
  else {
    rules := registry.rules ++ [rule]
    rejected := registry.rejected
    distinct := by
      rw [List.map_append, List.map_singleton, List.nodup_append]
      refine ⟨registry.distinct, by simp, fun a member b other => ?_⟩
      rw [List.mem_singleton.1 other]
      exact fun same => fresh (same ▸ member) }

def link (rules : List Rule) : Registry := rules.foldl (fun registry rule => registry.register (.ofRule rule)) empty

end Registry

end Plumbline
