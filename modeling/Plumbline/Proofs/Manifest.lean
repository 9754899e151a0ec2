import Plumbline.Manifest
import Plumbline.Proofs.Check.Parameters

namespace Plumbline

open Json

/-- The value that an object gives a key. -/
def Json.member? (key : String) : Json → Option Json
  | .object members => members.lookup key
  | _ => none

section Parts

variable {room : Nat}

@[simp] theorem Category.read?_toJson (manner : Manner) (category : Category) :
    Category.read? manner category.toJson = some category := by
  cases category <;> rfl

@[simp] theorem legible_category (category : Category) : Legible room category.toJson := .string category.label

/-- Every number in a table of weights. -/
def Weights.all {α : Type} (weights : Weights α) : List α :=
  Severity.all.map weights.severity.of ++ Category.all.map weights.category.of

theorem Weights.restored (weights : Weights Float)
    (reads : ∀ x ∈ weights.all, parse (Json.float x).pretty = some (.float x)) :
    Restores (room + 2) Weights.ofJson? weights.toJson weights where
  legible := by
    have each : ∀ x ∈ weights.all, Legible room (.float x) := fun x member => legible_float (reads x member)
    simp only [all, Severity.all, Category.all, List.map_cons, List.map_nil, List.cons_append, List.nil_append,
      List.forall_mem_cons, List.not_mem_nil, false_implies, implies_true, and_true] at each
    simpa [toJson, severityToJson, categoryToJson, PerSeverity.of, PerCategory.of, and_assoc] using each
  read := by
    rw [toJson, ofJson?, record?_object (by simp)]
    simp [severityToJson, categoryToJson, readSeverity?, readCategory?, recordIn?_object]

theorem Rule.restored (rule : Rule) (fits : ∀ n ∈ rule.check.counts, n ≤ largest64)
    (reads : ∀ x ∈ rule.check.doubles, parse (Json.float x).pretty = some (.float x)) :
    Restores (room + 5) Rule.ofJson? rule.toJson rule := by
  have check : Restores (room + 4) _ _ rule.check := rule.check.restored fits reads
  refine ⟨?_, ?_⟩
  · simp [toJson, check.legible]
  · rw [toJson, ofJson?, record?_object (by simp)]
    simp [Severity.ofJson?, Category.ofJson?, check.read]

end Parts

namespace Manifest

/-- Every double in a manifest. -/
def doubles (manifest : Manifest Float) : List Float := manifest.weights.all ++ manifest.rules.flatMap (·.check.doubles)

/-- Every whole number in a manifest. -/
def counts (manifest : Manifest Float) : List Nat := manifest.rules.flatMap (·.check.counts)

/-- A manifest is given back by its value, which nests seven containers deep. -/
theorem restored {room : Nat} (manifest : Manifest Float) (fits : ∀ n ∈ manifest.counts, n ≤ largest64)
    (reads : ∀ x ∈ manifest.doubles, parse (Json.float x).pretty = some (.float x)) :
    Restores (room + 7) ofJson? manifest.toJson manifest := by
  have weights : Restores (room + 6) _ _ manifest.weights :=
    manifest.weights.restored fun x member => reads x (List.mem_append_left _ member)
  have each (rule : Rule) (member : rule ∈ manifest.rules) : Restores (room + 5) Rule.ofJson? rule.toJson rule := by
    refine rule.restored (fun n among => ?_) fun x among => ?_
    · exact fits n (List.mem_flatMap.mpr ⟨rule, member, among⟩)
    · exact reads x (List.mem_append_right _ (List.mem_flatMap.mpr ⟨rule, member, among⟩))
  have rules := list?_map_self fun rule member => (each rule member).read
  have legible := fun rule member => (each rule member).legible
  obtain ⟨format, name, description, phase, generatedAt, resultsPath, _, _⟩ := manifest
  refine ⟨?_, ?_⟩
  · cases resultsPath <;> simpa [toJson, weights.legible] using legible
  · rw [toJson, ofJson?, record?_object (by cases resultsPath <;> simp)]
    cases resultsPath <;> simp [option?, weights.read, rules]

theorem parse_write (manifest : Manifest Float) (fits : ∀ n ∈ manifest.counts, n ≤ largest64)
    (reads : ∀ x ∈ manifest.doubles, parse (Json.float x).pretty = some (.float x)) :
    parse manifest.write = some manifest.toJson := by
  have restored : Restores (120 + 7) _ _ manifest := manifest.restored fits reads
  exact restored.legible.parse_pretty

/-- The kinds that the text of a manifest gives for its rules, in order. -/
def writtenKinds? (text : String) : Option (List String) := do
  let rules ← (← parse text).member? "rules"
  list? (fun rule => do (← (← rule.member? "check").member? "kind").text?) rules

theorem member?_rules (manifest : Manifest Float) :
    manifest.toJson.member? "rules" = some (.array (manifest.rules.map Rule.toJson)) := by
  obtain ⟨_, _, _, _, _, resultsPath, _, _⟩ := manifest
  cases resultsPath <;> rfl

/-- Every manifest in the supported format is read back from its text, whatever its strings hold and whichever of its
parts are empty or missing, if the doubles in it are. The text gives each rule the kind of its check. -/
theorem read_write (manifest : Manifest Float) (supported : manifest.format = supportedFormat)
    (fits : ∀ n ∈ manifest.counts, n ≤ largest64)
    (reads : ∀ x ∈ manifest.doubles, parse (Json.float x).pretty = some (.float x)) :
    read manifest.write = .ok manifest ∧
      writtenKinds? manifest.write = some (manifest.rules.map (·.check.kind)) := by
  have parsed := manifest.parse_write fits reads
  have restored : Restores (120 + 7) _ _ manifest := manifest.restored fits reads
  constructor
  · unfold read
    rw [parsed, Option.bind_some, restored.read]
    exact if_pos supported
  · have rules := manifest.member?_rules
    rw [writtenKinds?, parsed]
    simp only [Option.bind_eq_bind, Option.bind_some, rules]
    exact list?_map fun rule _ => rfl

/-- A manifest with the usual weights, no place for results, and strings that need escapes. -/
def sampleManifest : Manifest Float where
  format := supportedFormat
  name := "say \x22no\x22"
  description := "a\\b\n\t\x01 é∀"
  phase := ""
  generatedAt := "2026-01-01T00:00:00Z"
  resultsPath := none
  weights := Weights.default
  rules := [
    ⟨"readme", "", .low, .content, .readmeSections ⟨"README.md", [], ["setup"], 2, 4⟩⟩,
    ⟨"docstrings", "", .medium, .content, .moduleDocstrings ⟨"apps.py", true, none, .low⟩⟩,
    ⟨"packages", "", .high, .dependencies, .declaredDependencies ⟨[], [⟨"django", none, .high⟩]⟩⟩,
    ⟨"changes", "", .critical, .api, .documentationFreshness ⟨"CHANGELOG.md", ["\r"], 0.8⟩⟩]

theorem readsBack_sampleManifest :
    ∀ x ∈ sampleManifest.doubles, parse (Json.float x).pretty = some (.float x) := by
  have doubles : sampleManifest.doubles = [15, 8, 2, 1, 1, 1.5, 2, 1.2, 1.3, 0.8] := by decide
  rw [doubles]
  simp only [List.forall_mem_cons, List.not_mem_nil, false_implies, implies_true, and_true]
  exact ⟨rfl, rfl, rfl, rfl, rfl, rfl, rfl, rfl, rfl, rfl⟩

theorem read_write_sampleManifest :
    read sampleManifest.write = .ok sampleManifest ∧ writtenKinds? sampleManifest.write =
      some ["readme_sections", "module_docstrings", "declared_dependencies", "documentation_freshness"] :=
  sampleManifest.read_write rfl (by decide) readsBack_sampleManifest

end Manifest

end Plumbline
