import Plumbline.Proofs.Check.Models
import Plumbline.Proofs.Text.Infix

namespace Plumbline

/-- What is found under a key that no two items share is all that there is under the key. -/
theorem filter_eq_singleton {α κ : Type} [BEq κ] [LawfulBEq κ] {key : α → κ} {k : κ} {items : List α} {found : α}
    (distinct : (items.map key).Nodup) (first : items.find? (key · == k) = some found) :
    items.filter (key · == k) = [found] := by
  obtain ⟨here, before, after, rfl, others⟩ := List.find?_eq_some_iff_append.mp first
  rw [List.map_append, List.map_cons] at distinct
  have fresh := (List.nodup_cons.mp (List.nodup_append.mp distinct).2.1).1
  have later : ∀ item ∈ after, ¬ (key item == k) = true := by
    intro item member same
    refine fresh ?_
    rw [eq_of_beq here, ← eq_of_beq same]
    exact List.mem_map_of_mem member
  have earlier : ∀ item ∈ before, ¬ (key item == k) = true := fun item member => by simpa using others item member
  rw [List.filter_append, List.filter_cons, if_pos here, List.filter_eq_nil_iff.mpr earlier,
    List.filter_eq_nil_iff.mpr later, List.nil_append]

namespace Model

/-- Where the names of classes do not repeat, a model is one class of the text, under its name and with its bases. -/
theorem filter_classes_of_mem_inCode {code : String} {model : Model}
    (distinct : ((Source.classes code).map Source.Class.name).Nodup) (member : model ∈ inCode code) :
    ∃ body, (Source.classes code).filter (·.name == model.name) = [⟨model.name, model.bases, body⟩] :=
  ⟨_, filter_eq_singleton distinct (class_of_mem_inCode distinct member).1⟩

/-- A base is written out among the bases of a model. -/
theorem contains_of_derivesFrom {model : Model} {base : String} (derives : model.derivesFrom base = true) :
    Text.contains base.toList model.bases.toList = true := by
  obtain ⟨item, member, same⟩ := List.any_eq_true.mp derives
  rw [Text.contains_iff, ← eq_of_beq same]
  exact (Text.trim_infix item).trans (Text.infix_of_mem_split member)

end Model

namespace Check

section Distinct

variable {text : String} (distinct : ((Source.classes text).map Source.Class.name).Nodup)

include distinct in
/-- Among the classes of a text a model is found as it was extracted. -/
theorem findClass?_of_mem_inCode (path : String) {model : Model} (member : model ∈ Model.inCode text) :
    ∃ body, findClass? ((Source.classes text).map (⟨path, ·⟩)) model.name =
      some ⟨path, model.name, model.bases, body⟩ := by
  rw [findClass?, List.find?_map]
  exact ⟨_, congrArg (Option.map _) (Model.class_of_mem_inCode distinct member).1⟩

/-- No complaint about a base model is about a model that should derive from it. -/
theorem TenantBaseModel.issueType_of_mem_baseIssues {check : TenantBaseModel} {classes : List FoundClass} {issue : Issue}
    (member : issue ∈ check.baseIssues classes) : issue.issueType ≠ "model_not_tenant_scoped" := by
  rw [baseIssues] at member
  split at member
  · rw [List.mem_singleton.mp member]
    simp [Issue.make]
  · rcases List.mem_append.mp member with field | abstract
    · split at field
      · cases field
      · rw [List.mem_singleton.mp field]
        simp [Issue.make]
    · split at abstract
      · cases abstract
      · rw [List.mem_singleton.mp abstract]
        simp [Issue.make]

include distinct in
theorem TenantBaseModel.modelIssue?_of_derivesFrom (path : String) {model : Model} (member : model ∈ Model.inCode text)
    {base : String} (derives : model.derivesFrom base = true) :
    modelIssue? base ((Source.classes text).map (⟨path, ·⟩)) model.name = none := by
  obtain ⟨body, found⟩ := findClass?_of_mem_inCode distinct path member
  rw [modelIssue?, found]
  exact if_pos (Model.contains_of_derivesFrom derives)

include distinct in
/-- Models are extracted from a text as checks find its classes, where the names of these do not repeat: each as one class,
under its name and with its bases. So on a tree with no other file of models a check for all of them reports nothing, and
one for a tenant does not miss its base among those that list it. -/
theorem classes_agree_with_inCode :
    (∀ model ∈ Model.inCode text,
      ∃ body, (Source.classes text).filter (·.name == model.name) = [⟨model.name, model.bases, body⟩]) ∧
    ∀ site names, SoleModels site names text →
      ModelClasses.run ⟨defaultModelFiles, (Model.inCode text).map Model.name⟩ site = .ok [] ∧
      ∀ base field, ∃ issues,
        TenantBaseModel.run ⟨defaultModelFiles, base, field,
          ((Model.inCode text).filter (·.derivesFrom base)).map Model.name⟩ site = .ok issues ∧
        ∀ issue ∈ issues, issue.issueType ≠ "model_not_tenant_scoped" := by
  refine ⟨fun model member => Model.filter_classes_of_mem_inCode distinct member, fun site names sole => ⟨?_, ?_⟩⟩
  · rw [ModelClasses.run, sole.classesIn]
    refine congrArg Except.ok (List.filterMap_eq_nil_iff.mpr fun name listed => ?_)
    obtain ⟨model, member, rfl⟩ := List.mem_map.mp listed
    obtain ⟨body, found⟩ := findClass?_of_mem_inCode distinct (Path.ofSteps names) member
    rw [found]
    rfl
  · intro base field
    rw [TenantBaseModel.run, sole.classesIn]
    refine ⟨_, rfl, fun issue reported => ?_⟩
    rcases List.mem_append.mp reported with ofBase | ofModel
    · exact TenantBaseModel.issueType_of_mem_baseIssues ofBase
    · obtain ⟨name, listed, told⟩ := List.mem_filterMap.mp ofModel
      obtain ⟨model, member, rfl⟩ := List.mem_map.mp listed
      obtain ⟨member, derives⟩ := List.mem_filter.mp member
      rw [TenantBaseModel.modelIssue?_of_derivesFrom distinct _ member derives] at told
      cases told

end Distinct

/-- A base model and two models that list it, one after another class. -/
def tenantText : String :=
  "class Base(models.Model):\n tenant = models.F()\nclass A(Base):\n x = models.F()\nclass B( Mixin , Base ) :\n y = models.F()\n"

theorem classes_agree_with_tenantText :
    (Model.inCode tenantText).map Model.name = ["Base", "A", "B"] ∧
    ((Model.inCode tenantText).filter (·.derivesFrom "Base")).map Model.name = ["A", "B"] ∧
    ModelClasses.run ⟨defaultModelFiles, ["Base", "A", "B"]⟩ (sampleSite tenantText) = .ok [] ∧
    ∃ issues, TenantBaseModel.run ⟨defaultModelFiles, "Base", "tenant", ["A", "B"]⟩ (sampleSite tenantText) = .ok issues ∧
      ∀ issue ∈ issues, issue.issueType ≠ "model_not_tenant_scoped" := by
  have named : (Model.inCode tenantText).map Model.name = ["Base", "A", "B"] := by decide +kernel
  have derived : ((Model.inCode tenantText).filter (·.derivesFrom "Base")).map Model.name = ["A", "B"] := by decide +kernel
  have distinct : ((Source.classes tenantText).map Source.Class.name).Nodup := by decide +kernel
  have agree := classes_agree_with_inCode distinct
  obtain ⟨classes, tenant⟩ := agree.2 _ _ (soleModels_sampleSite tenantText)
  have issues := tenant "Base" "tenant"
  rw [named] at classes
  rw [derived] at issues
  exact ⟨named, derived, classes, issues⟩

end Check

end Plumbline
