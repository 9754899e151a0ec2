import Plumbline.Proofs.Phase.Copies

namespace Plumbline

/-- What a check of contents requires of a text. Other checks require nothing in words. -/
def CheckSpec.requirements? : CheckSpec → Option (List Requirement)
  | fileContent check => some check.requirements
  | textPresent check => some check.requirements
  | _ => none

/-- Whether there is nothing to read under some patterns: the files that match them, if any, are empty or cannot be
read. -/
def Site.IsBlankFor (site : Site) (patterns : List String) : Prop :=
  ∀ files, site.filesMatching patterns = .ok files → ∀ file ∈ files, file.text.getD "" = ""

namespace Check

/-- What a check of contents reports where there is nothing to read: that the file is missing, or all that is required. -/
def IsShortfall (requirements : List Requirement) (issues : List Issue) : Prop :=
  issues.map Issue.issueType = ["missing_file"] ∨ issues.map Issue.expected = requirements.map Requirement.description

theorem IsShortfall.ne_nil {requirements : List Requirement} {issues : List Issue}
    (short : IsShortfall requirements issues) (asks : requirements ≠ []) : issues ≠ [] := by
  rintro rfl
  rcases short with missing | unmet
  · cases missing
  · exact asks (List.map_eq_nil_iff.mp unmet.symm)

theorem map_expected_of_unmet {requirements : List Requirement} {met : Requirement → Bool} {report : Requirement → Issue}
    (unmet : ∀ requirement ∈ requirements, met requirement = false)
    (expected : ∀ requirement, (report requirement).expected = requirement.description) :
    (requirements.filterMap fun requirement => if met requirement then none else some (report requirement)).map
      Issue.expected = requirements.map Requirement.description := by
  have all : (requirements.filterMap fun requirement => if met requirement then none else some (report requirement)) =
      requirements.map report := by
    rw [← List.filterMap_eq_map]
    refine List.filterMap_congr fun requirement member => ?_
    rw [unmet requirement member]
    rfl
  rw [all, List.map_map]
  exact List.map_congr_left fun requirement _ => expected requirement

section Blank

variable {site : Site} {issues : List Issue}

theorem TextPresent.isShortfall_of_blank {check : TextPresent} (blank : site.IsBlankFor check.files)
    (unmet : ∀ requirement ∈ check.requirements, requirement.isMetBy "" = false)
    (ran : check.run site = .ok issues) : IsShortfall check.requirements issues := by
  rw [run, Site.textsMatching, bind_eq_ok_iff] at ran
  obtain ⟨texts, read, reported⟩ := ran
  obtain ⟨files, found, same⟩ := bind_eq_ok_iff.mp read
  cases same
  cases reported
  refine .inr (map_expected_of_unmet (fun requirement member => List.any_eq_false.mpr fun text reads met => ?_)
    fun _ => rfl)
  obtain ⟨file, listed, here⟩ := List.mem_filterMap.mp reads
  have empty : text = "" := by simpa [here] using blank files found file listed
  rw [empty, unmet requirement member] at met
  cases met

theorem FileContent.isShortfall_of_blank {check : FileContent} (blank : site.IsBlankFor [check.file])
    (unmet : ∀ requirement ∈ check.requirements, requirement.isMetBy "" = false)
    (ran : check.run site = .ok issues) : IsShortfall check.requirements issues := by
  rw [run_eq, Site.findFile?, bind_eq_ok_iff] at ran
  obtain ⟨found, looked, reported⟩ := ran
  obtain ⟨files, matched, same⟩ := bind_eq_ok_iff.mp looked
  cases same
  cases reported
  cases files with
  | nil => exact .inl rfl
  | cons first rest =>
    have empty : first.text.getD "" = "" := blank _ matched first List.mem_cons_self
    rw [List.head?_cons, issuesOfFirst, empty]
    exact .inr (map_expected_of_unmet unmet fun _ => rfl)

end Blank

end Check

namespace Scaffold

open Check

variable {spec : Specification} {requirements : List Requirement}

/-- A check of contents that requires something, all of it definite, so that it does not pass where there is nothing to
read. -/
structure AsksOfText (check : CheckSpec) (requirements : List Requirement) : Prop where
  some : requirements ≠ []
  definite : ∀ requirement ∈ requirements, IsDefinite requirement
  unmet : ∀ requirement ∈ requirements, requirement.isMetBy "" = false
  shortfall : ∀ (site : Site) issues, site.IsBlankFor check.patterns → check.run site = .ok issues →
    issues ≠ [] ∧ IsShortfall requirements issues

/-- A rule whose check asks for something where it asks for texts. -/
def IsFilled (rule : Rule) : Prop :=
  ∀ requirements ∈ rule.check.requirements?, AsksOfText rule.check requirements

instance (requirement : Requirement) : Decidable (IsDefinite requirement) :=
  inferInstanceAs (Decidable (_ ∧ ∀ _ ∈ _, _))

theorem isFilled_of_none {rule : Rule} (none : rule.check.requirements? = none) : IsFilled rule := by
  rw [IsFilled, none]
  exact nofun

theorem isFilled_of_mem_given {condition : Bool} {rule : Rule} (filled : condition = true → IsFilled rule) :
    ∀ other ∈ Rule.given condition rule, IsFilled other := by
  intro other member
  obtain ⟨holds, rfl⟩ := Rule.mem_given_iff.mp member
  exact filled holds

section Contents

variable (some : requirements ≠ []) (definite : ∀ requirement ∈ requirements, IsDefinite requirement)
include some definite

theorem asksOfText_of_isShortfall {check : CheckSpec}
    (short : (∀ requirement ∈ requirements, requirement.isMetBy "" = false) → ∀ (site : Site) issues,
      site.IsBlankFor check.patterns → check.run site = .ok issues → IsShortfall requirements issues) :
    AsksOfText check requirements := by
  have unmet : ∀ requirement ∈ requirements, requirement.isMetBy "" = false :=
    fun requirement member => (definite requirement member).not_isMetBy_empty
  refine ⟨some, definite, unmet, fun site issues blank ran => ?_⟩
  exact ⟨(short unmet site issues blank ran).ne_nil some, short unmet site issues blank ran⟩

theorem asksOfText_fileContent (file : String) (severity : Severity) :
    AsksOfText (.fileContent ⟨file, severity, requirements⟩) requirements :=
  asksOfText_of_isShortfall some definite fun unmet _ _ blank ran => FileContent.isShortfall_of_blank blank unmet ran

theorem asksOfText_textPresent (files : List String) (issueType : String) :
    AsksOfText (.textPresent ⟨files, issueType, requirements⟩) requirements :=
  asksOfText_of_isShortfall some definite fun unmet _ _ blank ran => TextPresent.isShortfall_of_blank blank unmet ran

theorem isFilled_fileContent {rule : Rule} {file : String} {severity : Severity}
    (check : rule.check = .fileContent ⟨file, severity, requirements⟩) : IsFilled rule := by
  rw [IsFilled, check]
  rintro _ ⟨⟩
  exact asksOfText_fileContent some definite file severity

theorem isFilled_contentRule (file : String) : IsFilled (contentRule spec file requirements) := by
  by_cases held : spec.layout.IsHeldVariously file
  · have check : (contentRule spec file requirements).check = .textPresent ⟨[file], "missing_content", requirements⟩ :=
      contentCheck_of_heldVariously held
    rw [IsFilled, check]
    rintro _ ⟨⟩
    exact asksOfText_textPresent some definite _ _
  · exact isFilled_fileContent some definite (contentCheck_of_not_heldVariously held)

end Contents

theorem isFilled_of_mem_contentRules : ∀ rule ∈ contentRules spec, IsFilled rule := by
  intro rule member
  obtain ⟨⟨file, expectations⟩, _, here⟩ := List.mem_flatMap.mp member
  refine isFilled_of_mem_given (fun asks => ?_) rule here
  have some : requirementsOf spec expectations ≠ [] := by
    simpa [requirementsOf] using asks
  exact isFilled_contentRule some isDefinite_of_mem_requirementsOf file

theorem isFilled_literal (items : List String) {rule : Rule} {file : String} {missing severity : Severity}
    {describe : String → String} (some : items ≠ []) (named : ∀ item ∈ items, item ≠ "")
    (check : rule.check = .fileContent ⟨file, missing, Requirement.literal items describe severity⟩) : IsFilled rule := by
  refine isFilled_fileContent (fun none => some (List.map_eq_nil_iff.mp none)) (fun requirement member => ?_) check
  obtain ⟨item, listed, rfl⟩ := List.mem_map.mp member
  exact ⟨List.cons_ne_nil _ _, List.forall_mem_singleton.mpr (named item listed)⟩

theorem isDefinite_of_mem_ignoreRequirements (hasFrontend : Bool) :
    ∀ requirement ∈ ignoreRequirements hasFrontend, IsDefinite requirement := by
  cases hasFrontend with
  | true => decide
  | false => decide

/-- Whatever a specification says, the rules of its skeleton that ask for texts ask for some, and for none that is there
where nothing is. -/
theorem isFilled_of_mem_rules (spec : Specification) : ∀ rule ∈ rules spec, IsFilled rule := by
  simp only [rules, layoutRules, tenancyRules, modelRules, appRules, integrationRules, testRules, documentationRules,
    List.forall_mem_append, and_assoc]
  -- most rules ask for no text at all
  have none {condition : Bool} {rule : Rule} (quiet : rule.check.requirements? = none) :
      ∀ other ∈ Rule.given condition rule, IsFilled other := isFilled_of_mem_given fun _ => isFilled_of_none quiet
  refine ⟨none rfl, List.forall_mem_singleton.mpr ?ignore, isFilled_of_mem_given fun _ => ?project,
    List.forall_mem_cons.mpr ⟨?hooks, List.forall_mem_singleton.mpr ?environment⟩, isFilled_of_mem_contentRules,
    List.forall_mem_map.mpr fun _ _ => isFilled_of_none rfl, none rfl, none rfl, none rfl, none rfl, none rfl, none rfl,
    none rfl, List.forall_mem_map.mpr fun _ _ => isFilled_of_none rfl, none rfl,
    List.forall_mem_map.mpr fun _ _ => isFilled_of_none rfl, List.forall_mem_singleton.mpr (isFilled_of_none rfl)⟩
  case ignore => exact isFilled_fileContent (List.cons_ne_nil _ _) (isDefinite_of_mem_ignoreRequirements _) rfl
  case project => exact isFilled_fileContent (List.cons_ne_nil _ _) (by decide) rfl
  case hooks => exact isFilled_literal hooks (List.cons_ne_nil _ _) (by decide) rfl
  case environment =>
    exact isFilled_literal ["DEBUG", "SECRET_KEY", "DATABASE_URL"] (List.cons_ne_nil _ _) (by decide) rfl

/-- What is expected of a file becomes a rule that does not pass while the file is empty. -/
theorem contentRule_fails_on_empty_file : ∃ rule ∈ rules (expecting apart),
    rule.check.requirements? = some [⟨"Models carry a tenant field", ["tenant =", "tenant="], .high⟩] ∧
      IsFilled rule ∧ rule.check.run (Site.ofFile "models.py" "") ≠ .ok [] := by
  have asks : requirementsOf (expecting apart) ["Models carry a tenant field"] ≠ [] := by
    rw [requirementsOf_expecting]
    exact List.cons_ne_nil _ _
  have among := contentRule_mem (List.mem_cons_self : _ ∈ (expecting apart).contentExpectations.entries) asks
  rw [requirementsOf_expecting] at among
  have member : contentRule (expecting apart) "models.py"
      [⟨"Models carry a tenant field", ["tenant =", "tenant="], .high⟩] ∈ rules (expecting apart) := by
    simp only [rules, List.mem_append, among, or_true, true_or]
  have filled := isFilled_of_mem_rules (expecting apart) _ member
  refine ⟨_, member, rfl, filled, fun passes => ?_⟩
  refine ((filled _ rfl).shortfall _ _ (fun files found file listed => ?_) passes).1 rfl
  obtain ⟨_, walked, _, walks, rfl⟩ := Site.filesMatching_eq_ok_iff.mp found
  cases (Site.walkFiles_ofFile "models.py" "").symm.trans walks
  rw [List.mem_singleton.mp (List.mem_of_mem_filter listed)]
  rfl

end Scaffold

end Plumbline
