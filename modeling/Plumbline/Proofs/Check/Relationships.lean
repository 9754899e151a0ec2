import Plumbline.Proofs.Blueprint.Relations
import Plumbline.Proofs.Check.Models

namespace Plumbline

namespace Source

/-- Whether a line opens a class with a base list. -/
def opensWithBases (line : List Char) : Bool := ((classHeader? line).bind Prod.snd).isSome

end Source

namespace Model

open Source

/-- Headers with base lists end both the body that is read for a model and the body of the class; indented lines belong
to both. -/
theorem staysOpen_eq_isIndented {line : List Char} (made : isIndented line = true ∨ opensWithBases line = true) :
    staysOpen line = isIndented line := by
  rcases made with indented | opens
  · have noHeader : classHeader? line = none := by
      by_contra header
      obtain ⟨found, opens⟩ := Option.ne_none_iff_exists'.mp header
      rw [not_isIndented_of_header opens] at indented
      contradiction
    have noComment : line.head? ≠ some '#' := by
      intro first
      obtain ⟨rest, rfl⟩ := List.head?_eq_some_iff.mp first
      have atMargin : isIndented ('#' :: rest) = false := rfl
      rw [atMargin] at indented
      contradiction
    simp [staysOpen, noHeader, noComment, indented]
  · obtain ⟨bases, header⟩ := Option.isSome_iff_exists.mp opens
    obtain ⟨found, opens, _⟩ := Option.bind_eq_some_iff.mp header
    rw [not_isIndented_of_header opens, staysOpen, header]
    rfl

theorem takeWhile_staysOpen {rows : List (List Char)}
    (made : ∀ line ∈ rows, isIndented line = true ∨ opensWithBases line = true) :
    rows.takeWhile staysOpen = rows.takeWhile isIndented := by
  induction rows with
  | nil => rfl
  | cons line rest ih =>
    obtain ⟨here, below⟩ := List.forall_mem_cons.mp made
    rw [List.takeWhile_cons, List.takeWhile_cons, staysOpen_eq_isIndented here, ih below]

end Model

namespace Check

/-- The lines that a class has to itself: the indented ones right below its header. -/
def ownLines (text model : String) : List (List Char) :=
  (Source.linesBelow model.toList (Text.lines text.toList)).takeWhile Source.isIndented

/-- The body of a class as checks see it. -/
def ownBody (text model : String) : String := Source.bodyText (ownLines text model)

/-- The field declarations in the lines that a class has to itself. -/
def ownDeclarations (text model : String) : List Model.Declaration :=
  Text.findAll Model.readDeclaration none (['\n'].intercalate (ownLines text model))

/-- Every relation that some models record. -/
def relationsOf (models : List Model) : List Relation :=
  models.flatMap fun model => model.relations.map (⟨model.name, ·⟩)

theorem mem_relationsOf {models : List Model} {relation : Relation} (member : relation ∈ relationsOf models) :
    ∃ model ∈ models, model.name = relation.model ∧ relation.target ∈ model.relations := by
  obtain ⟨model, among, found⟩ := List.mem_flatMap.mp member
  obtain ⟨target, recorded, rfl⟩ := List.mem_map.mp found
  exact ⟨model, among, rfl, recorded⟩

/-- The issue of a relation that the class in a file does not hold. -/
def missingRelation (file : String) (relation : Relation) : Issue :=
  let model := relation.model
  let target := relation.target
  .make file "missing_model_relationship" s!"{model} has no relationship to {target}"
    s!"{model} must reference {target}" "No ForeignKey/OneToOneField/ManyToManyField to target" .medium

section Sole

variable {site : Site} {names : List String} {text : String}

theorem relationIssue?_eq {relation : Relation} (distinct : ((Source.classes text).map Source.Class.name).Nodup)
    (member : relation ∈ relationsOf (Model.inCode text)) (file : String) :
    relationIssue? ((Source.classes text).map (⟨file, ·⟩)) relation =
      if Source.relatesTo (ownBody text relation.model) relation.target then none
      else some (missingRelation file relation) := by
  obtain ⟨model, among, named, _⟩ := mem_relationsOf member
  obtain ⟨found, _⟩ := Model.class_of_mem_inCode distinct among
  rw [named] at found
  have class' : findClass? ((Source.classes text).map (⟨file, ·⟩)) relation.model =
      some ⟨file, relation.model, model.bases, ownBody text relation.model⟩ := by
    rw [findClass?, List.find?_map]
    exact congrArg (Option.map _) found
  rw [relationIssue?, class']
  rfl

/-- A check for extracted relations reports just those that the bodies of their classes do not hold. -/
theorem run_modelRelationships (sole : SoleModels site names text)
    (distinct : ((Source.classes text).map Source.Class.name).Nodup) :
    ModelRelationships.run ⟨defaultModelFiles, relationsOf (Model.inCode text)⟩ site =
      .ok (((relationsOf (Model.inCode text)).filter fun relation =>
          !Source.relatesTo (ownBody text relation.model) relation.target).map
        (missingRelation (Path.ofSteps names))) := by
  have issues := List.filterMap_congr fun relation (member : relation ∈ relationsOf (Model.inCode text)) =>
    relationIssue?_eq distinct member (Path.ofSteps names)
  unfold ModelRelationships.run
  simp only [sole.classesIn, bind, Except.bind]
  rw [issues, ← List.filterMap_eq_map, List.filterMap_filter]
  refine congrArg Except.ok (List.filterMap_congr fun relation _ => ?_)
  cases Source.relatesTo (ownBody text relation.model) relation.target <;> rfl

/-- In a text of headers with base lists and indented lines, the declarations of a class stand in its own lines. -/
theorem exists_declaration_of_mem_relationsOf {relation : Relation}
    (distinct : ((Source.classes text).map Source.Class.name).Nodup)
    (made : ∀ line ∈ Text.lines text.toList, Source.isIndented line = true ∨ Source.opensWithBases line = true)
    (member : relation ∈ relationsOf (Model.inCode text)) :
    ∃ declaration ∈ ownDeclarations text relation.model,
      Model.FieldKind.target? declaration.kind = some relation.target := by
  obtain ⟨model, among, named, recorded⟩ := mem_relationsOf member
  obtain ⟨before, header, after, name, bases, split, opens, rfl⟩ := Model.exists_header_of_mem_inCode among
  rw [Source.classes_eq_classesAmong, split] at distinct
  have below : Source.linesBelow name (before ++ header :: after) = after :=
    Source.linesBelow_eq (Source.first_of_nodup distinct opens) opens
  have same : after.takeWhile Model.staysOpen = after.takeWhile Source.isIndented := by
    refine Model.takeWhile_staysOpen fun line member => made line ?_
    rw [split]
    exact List.mem_append_right before (List.mem_cons_of_mem header member)
  rw [Model.mem_relations_ofClass, String.toList_ofList, same] at recorded
  rw [Model.ofClass_name] at named
  rw [ownDeclarations, ownLines, ← named, split, String.toList_ofList, below]
  exact recorded

/-- A check for extracted relations reports just those that their classes do not hold. A class holds what a relationship
in its own lines begins with, and nothing else: a relationship begins with its target where that is the first argument,
behind blanks and at most one quotation mark, but not where a keyword stands in front of it. -/
theorem modelRelationships_of_inCode (sole : SoleModels site names text)
    (distinct : ((Source.classes text).map Source.Class.name).Nodup) :
    let relations := relationsOf (Model.inCode text)
    let check : ModelRelationships := ⟨defaultModelFiles, relations⟩
    check.run site = .ok ((relations.filter fun relation =>
        !Source.relatesTo (ownBody text relation.model) relation.target).map (missingRelation (Path.ofSteps names))) ∧
      (∀ relation ∈ relations,
        ((∃ declaration ∈ ownDeclarations text relation.model, declaration.LeadsTo relation.target) →
          Source.relatesTo (ownBody text relation.model) relation.target = true) ∧
        (Source.relatesTo (ownBody text relation.model) relation.target = true →
          Source.Refers (ownBody text relation.model) relation.target)) ∧
      ((∀ line ∈ Text.lines text.toList, Source.isIndented line = true ∨ Source.opensWithBases line = true) →
        (∀ relation ∈ relations, ∀ declaration ∈ ownDeclarations text relation.model,
          Model.FieldKind.target? declaration.kind = some relation.target →
          Source.Opens relation.target.toList declaration.arguments) →
        check.run site = .ok []) := by
  intro relations check
  have issues : check.run site = _ := run_modelRelationships sole distinct
  have held {relation : Relation} {declaration : Model.Declaration}
      (own : declaration ∈ ownDeclarations text relation.model) (leads : declaration.LeadsTo relation.target) :
      Source.relatesTo (ownBody text relation.model) relation.target = true := Model.relatesTo_of_leadsTo own leads
  refine ⟨issues, fun relation _ => ⟨?_, Source.refers_of_relatesTo⟩, fun made begins => issues.trans ?_⟩
  · rintro ⟨declaration, own, leads⟩
    exact held own leads
  · have none : relations.filter (fun relation =>
        !Source.relatesTo (ownBody text relation.model) relation.target) = [] := by
      refine List.filter_eq_nil_iff.mpr fun relation member => ?_
      obtain ⟨declaration, own, recorded⟩ := exists_declaration_of_mem_relationsOf distinct made member
      have opens := begins relation member declaration own recorded
      obtain ⟨c, constructor⟩ := Model.constructor_of_target recorded
      rw [held own ⟨c, relation.target.toList, constructor, opens, rfl⟩]
      simp
    exact congrArg (fun unmet => Except.ok (unmet.map (missingRelation (Path.ofSteps names)))) none

end Sole

/-- Two models, one of which refers to the other and to a model elsewhere. -/
def sampleRelations : String :=
  "class Loan(models.Model):\n  customer = models.ForeignKey(\n    \x22Customer\x22,\n  )\n\n" ++
    "class Customer(models.Model):\n  home = models.OneToOneField(places.Home, null=True)\n"

theorem modelRelationships_of_sampleRelations :
    ModelRelationships.run ⟨defaultModelFiles, relationsOf (Model.inCode sampleRelations)⟩
      (sampleSite sampleRelations) = .ok [] :=
  (modelRelationships_of_inCode (soleModels_sampleSite sampleRelations) (by decide +kernel)).2.2 (by decide +kernel)
    (by decide +kernel)

/-- A model whose target is given by keyword. -/
def keywordTarget : String := "class Loan(models.Model):\n  customer = models.ForeignKey(to=\x22Customer\x22)\n"

/-- A target given by keyword is extracted as a relation, but no check finds it in the class. -/
theorem modelRelationships_misses_keyword_target :
    ¬ ∀ (site : Site) (names : List String) (text : String), SoleModels site names text →
      ((Source.classes text).map Source.Class.name).Nodup →
      (∀ line ∈ Text.lines text.toList, Source.isIndented line = true ∨ Source.opensWithBases line = true) →
      ModelRelationships.run ⟨defaultModelFiles, relationsOf (Model.inCode text)⟩ site = .ok [] := by
  intro agrees
  have sole := soleModels_sampleSite keywordTarget
  have none := agrees _ _ _ sole (by decide +kernel) (by decide +kernel)
  rw [run_modelRelationships sole (by decide +kernel)] at none
  have found : (relationsOf (Model.inCode keywordTarget)).filter (fun relation =>
      !Source.relatesTo (ownBody keywordTarget relation.model) relation.target) = [⟨"Loan", "Customer"⟩] := by
    decide +kernel
  rw [found] at none
  exact absurd (Except.ok.inj none) (List.cons_ne_nil _ _)

end Check

end Plumbline
