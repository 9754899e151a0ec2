import Plumbline.Check.Models
import Plumbline.Proofs.Blueprint.Models
import Plumbline.Proofs.Site

namespace Plumbline.Check

/-- Whether models are looked for in a file with these names. -/
def IsModelModule (names : List String) : Prop :=
  names.getLast? = some "models.py" ∨ ∃ lead name, names = lead ++ ["models", name] ∧ ".py".toList <:+ name.toList

/-- The patterns for the files of models. -/
def modelPatterns : List PathPattern :=
  [⟨["models.py".toList.map .literal]⟩, ⟨["models".toList.map .literal, .many :: ".py".toList.map .literal]⟩]

theorem parseAll_defaultModelFiles : PathPattern.parseAll defaultModelFiles = .ok modelPatterns := by
  have alone : PathPattern.components "models.py" = ["models.py"] := by decide +kernel
  have within : PathPattern.components "models/*.py" = ["models", "*.py"] := by decide +kernel
  have file : PathPattern.parse "models.py" = .ok ⟨["models.py".toList.map .literal]⟩ :=
    PathPattern.parse_eq_ok alone
      (.cons ⟨Glob.parse_of_plain (by decide +kernel), by decide +kernel⟩ .nil)
  have package : PathPattern.parse "models/*.py" =
      .ok ⟨["models".toList.map .literal, .many :: ".py".toList.map .literal]⟩ :=
    PathPattern.parse_eq_ok within
      (.cons ⟨Glob.parse_of_plain (by decide +kernel), by decide +kernel⟩
        (.cons ⟨Glob.parse_star_of_plain (by decide +kernel), by decide +kernel⟩ .nil))
  exact mapM_eq_ok_of_forall₂ (.cons file (.cons package .nil))

theorem any_modelPatterns_iff {names : List String} :
    modelPatterns.any (·.isMatch names) = true ↔ IsModelModule names := by
  have file : PathPattern.isMatch ⟨["models.py".toList.map .literal]⟩ names = true ↔
      names.getLast? = some "models.py" := by
    simp only [PathPattern.isMatch_singleton_iff, Glob.isMatch_literals, String.toList_inj, exists_eq_right]
  have package : PathPattern.isMatch ⟨["models".toList.map .literal, .many :: ".py".toList.map .literal]⟩ names = true ↔
      ∃ lead name, names = lead ++ ["models", name] ∧ ".py".toList <:+ name.toList := by
    simp only [PathPattern.isMatch_iff, List.forall₂_cons_left_iff, List.forall₂_nil_left_iff, Glob.isMatch_literals,
      Glob.isMatch_star_literals, String.toList_inj]
    constructor
    · rintro ⟨_, lead, _, rfl, _, _, rfl, ⟨name, _, python, rfl, rfl⟩, rfl⟩
      exact ⟨lead, name, rfl, python⟩
    · rintro ⟨lead, name, rfl, python⟩
      exact ⟨List.cons_ne_nil _ _, lead, _, rfl, _, _, rfl, ⟨name, _, python, rfl, rfl⟩, rfl⟩
  simp only [modelPatterns, List.any_cons, List.any_nil, Bool.or_false, Bool.or_eq_true, file, package, IsModelModule]

/-- A tree with a file of models that holds a text, and no other file where models are looked for. -/
structure SoleModels (site : Site) (names : List String) (text : String) : Prop where
  named : names.getLast? = some "models.py"
  walked : ∃ before after, site.walkFiles = .ok (before ++ ⟨names, some text⟩ :: after) ∧
    ∀ file ∈ before ++ after, ¬IsModelModule file.names

section Sole

variable {site : Site} {names : List String} {text : String}

theorem SoleModels.filesMatching (sole : SoleModels site names text) :
    site.filesMatching defaultModelFiles = .ok [⟨names, some text⟩] := by
  obtain ⟨before, after, walked, others⟩ := sole.walked
  exact Site.filesMatching_of_sole parseAll_defaultModelFiles walked (any_modelPatterns_iff.mpr (.inl sole.named))
    fun file member found => others file member (any_modelPatterns_iff.mp found)

theorem SoleModels.classesIn (sole : SoleModels site names text) :
    classesIn site defaultModelFiles = .ok ((Source.classes text).map (⟨Path.ofSteps names, ·⟩)) := by
  unfold Check.classesIn
  rw [sole.filesMatching]
  exact congrArg Except.ok (List.append_nil _)

/-- A check for the fields of an extracted model finds fault with those that no indented line below the header of the
model declares. It finds none where these are all the lines that were read for the model, and no line begins with an
equals sign. -/
theorem modelFields_of_mem_inCode {model : Model} (sole : SoleModels site names text)
    (distinct : ((Source.classes text).map Source.Class.name).Nodup) (member : model ∈ Model.inCode text) :
    let below := Source.linesBelow model.name.toList (Text.lines text.toList)
    let indented := below.takeWhile Source.isIndented
    let check : ModelFields := ⟨defaultModelFiles, model.name, model.fields⟩
    check.run site = .ok (model.fields.filterMap
        (fieldIssue? ⟨Path.ofSteps names, model.name, model.bases, Source.bodyText indented⟩)) ∧
      (below.takeWhile Model.staysOpen = indented →
        (∀ line ∈ indented, (Text.trimStart line).head? ≠ some '=') → check.run site = .ok []) := by
  intro below indented check
  obtain ⟨found, declared⟩ := Model.class_of_mem_inCode distinct member
  have issues : check.run site = .ok (model.fields.filterMap
      (fieldIssue? ⟨Path.ofSteps names, model.name, model.bases, Source.bodyText indented⟩)) := by
    have class' : findClass? ((Source.classes text).map (⟨Path.ofSteps names, ·⟩)) model.name =
        some ⟨Path.ofSteps names, model.name, model.bases, Source.bodyText indented⟩ := by
      rw [findClass?, List.find?_map]
      exact congrArg (Option.map _) found
    simp only [ModelFields.run, check, sole.classesIn, bind, Except.bind, class']
    rfl
  refine ⟨issues, fun same noEquals => issues.trans (congrArg Except.ok ?_)⟩
  refine List.filterMap_eq_nil_iff.mpr fun field member => ?_
  rw [← same] at noEquals
  have declares : Source.declaresField (Source.bodyText indented) field = true := same ▸ declared noEquals field member
  rw [fieldIssue?, if_pos declares]

end Sole

/-- A tree with nothing but a file of models. -/
def sampleSite (text : String) : Site := ⟨⟨.directory [("models.py", .file (some text))], []⟩, "."⟩

theorem soleModels_sampleSite (text : String) : SoleModels (sampleSite text) ["models.py"] text :=
  ⟨rfl, [], [], Site.walkFiles_ofFile "models.py" text, fun _ none => absurd none List.not_mem_nil⟩

/-- Two models under one another. -/
def sampleText : String :=
  "class A(Model):\n x = models.F()\nclass B(Model):\n y = models.F()\n"

theorem modelFields_of_sampleText :
    ∃ model ∈ Model.inCode sampleText, model.fields = ["x"] ∧
      ModelFields.run ⟨defaultModelFiles, model.name, model.fields⟩ (sampleSite sampleText) = .ok [] := by
  obtain ⟨model, member, name, fields⟩ :
      ∃ model ∈ Model.inCode sampleText, model.name = "A" ∧ model.fields = ["x"] := by decide +kernel
  refine ⟨model, member, fields, ?_⟩
  have checked := modelFields_of_mem_inCode (soleModels_sampleSite sampleText) (by decide +kernel) member
  exact checked.2 (by rw [name]; decide +kernel) (by rw [name]; decide +kernel)

/-- A model and a function below it that sets a variable to a field. -/
def helperText : String :=
  "class A(Model):\n x = models.F()\ndef f():\n y = models.F()\n"

/-- The variable of a function at the margin is extracted as a field, but no check finds it in the class. -/
theorem modelFields_misses_field_below_function :
    ¬ ∀ (site : Site) (names : List String) (text : String) (model : Model), SoleModels site names text →
      ((Source.classes text).map Source.Class.name).Nodup → model ∈ Model.inCode text →
      ModelFields.run ⟨defaultModelFiles, model.name, model.fields⟩ site = .ok [] := by
  intro agrees
  obtain ⟨model, member, name, fields⟩ :
      ∃ model ∈ Model.inCode helperText, model.name = "A" ∧ model.fields = ["x", "y"] := by decide +kernel
  have sole := soleModels_sampleSite helperText
  have classes : Source.classes helperText = [⟨"A", "Model", " x = models.F()\n"⟩] := by decide +kernel
  have none := agrees _ _ _ model sole (by decide +kernel) member
  rw [name, fields] at none
  simp only [ModelFields.run, sole.classesIn, classes, bind, Except.bind, List.map_cons, List.map_nil] at none
  have empty := List.filterMap_eq_nil_iff.mp (Except.ok.inj none) "y" (by decide)
  rw [fieldIssue?, if_neg (by decide +kernel)] at empty
  contradiction

end Plumbline.Check
