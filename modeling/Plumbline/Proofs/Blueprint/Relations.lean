import Plumbline.Proofs.Blueprint.Models
import Plumbline.Proofs.Source.Relations

namespace Plumbline

namespace Source

theorem intercalate_append_feed {rows : List (List Char)} (nonempty : rows ≠ []) :
    ['\n'].intercalate rows ++ ['\n'] = rows.flatMap (· ++ ['\n']) := by
  induction rows with
  | nil => contradiction
  | cons row rest ih =>
    cases rest with
    | nil => simp
    | cons next rest =>
      rw [List.intercalate_cons_cons, List.flatMap_cons, ← ih (List.cons_ne_nil next rest)]
      simp only [List.append_assoc]

end Source

namespace Model

open Text Source

theorem mem_relations_foldl_addField {declarations : List Declaration} {model : Model} {target : String} :
    target ∈ (declarations.foldl addField model).relations ↔
      target ∈ model.relations ∨ ∃ declaration ∈ declarations, FieldKind.target? declaration.kind = some target := by
  induction declarations generalizing model with
  | nil => simp
  | cons declaration rest ih =>
    rw [List.foldl_cons, ih, addField, Distinct.mem_addAll, Option.mem_toList, or_assoc]
    simp

/-- The relations of a model are the targets that its body declares. -/
theorem mem_relations_ofClass {name bases body target : String} :
    target ∈ (ofClass name bases body).relations ↔
      ∃ declaration ∈ findAll readDeclaration none body.toList, FieldKind.target? declaration.kind = some target := by
  rw [ofClass, mem_relations_foldl_addField]
  simp [Model.empty]

/-- A field declaration assigns a call of its constructor. -/
theorem call_of_readDeclaration {before : Option Char} {s rest : List Char} {declaration : Declaration}
    (reads : readDeclaration before s = some (declaration, rest)) :
    ∃ front gap between inside, s = front ++ '=' :: (gap ++ "models.".toList) ++
        (declaration.constructor.toList ++ (between ++ '(' :: inside)) ∧
      (∀ c ∈ gap, isBlank c = true) ∧ (∀ c ∈ between, isBlank c = true) ∧
      declaration.arguments = inside.takeWhile (· != ')') := by
  unfold readDeclaration at reads
  split at reads
  · contradiction
  · simp only [Option.bind_eq_bind, Option.bind_eq_some_iff, Prod.exists] at reads
    obtain ⟨field, after, word, behindEquals, equals, behindModels, models, constructor, behind, name, inside, opened,
      result⟩ := reads
    obtain ⟨rfl, rfl⟩ := Prod.mk.inj (Option.some.inj result)
    have margin := s.takeWhile_append_dropWhile (p := fun c => c == ' ' || c == '\t')
    have gapEquals : after.takeWhile isBlank ++ trimStart after = after := List.takeWhile_append_dropWhile
    have gapModels : behindEquals.takeWhile isBlank ++ trimStart behindEquals = behindEquals :=
      List.takeWhile_append_dropWhile
    have gapOpened : behind.takeWhile isBlank ++ trimStart behind = behind := List.takeWhile_append_dropWhile
    rw [after?_eq_some_iff] at equals models opened
    rw [(some?_eq_some word).1, ← gapEquals, equals, ← gapModels, models, (some?_eq_some name).1, ← gapOpened,
      opened] at margin
    refine ⟨(s.takeWhile fun c => c == ' ' || c == '\t') ++ (field ++ after.takeWhile isBlank),
      behindEquals.takeWhile isBlank, behind.takeWhile isBlank, inside, ?_,
      fun c member => List.mem_takeWhile_imp member, fun c member => List.mem_takeWhile_imp member, rfl⟩
    have spelled : (String.ofList constructor).toList = constructor := String.toList_ofList
    rw [spelled]
    refine margin.symm.trans ?_
    simp only [List.append_assoc, List.cons_append, List.nil_append]

theorem constructor_of_target {declaration : Declaration} {target : String}
    (recorded : FieldKind.target? declaration.kind = some target) :
    ∃ c : Cardinality, declaration.constructor = c.constructor := by
  unfold Declaration.kind at recorded
  cases spelled : Cardinality.ofConstructor? declaration.constructor with
  | none => rw [spelled] at recorded; contradiction
  | some c =>
    have same := List.find?_some spelled
    exact ⟨c, (eq_of_beq same).symm⟩

/-- The arguments of a relationship begin with a name that ends as the target does. -/
def Declaration.LeadsTo (declaration : Declaration) (target : String) : Prop :=
  ∃ (c : Cardinality) (name : List Char), declaration.constructor = c.constructor ∧
    Opens name declaration.arguments ∧ lastPart name = lastPart target.toList

/-- A class relates to what the arguments of one of its relationships begin with. -/
theorem relatesTo_of_leadsTo {rows : List (List Char)} {declaration : Declaration} {target : String}
    (found : declaration ∈ findAll readDeclaration none (['\n'].intercalate rows))
    (leads : declaration.LeadsTo target) : relatesTo (bodyText rows) target = true := by
  obtain ⟨lead, tail, rest, split, reads⟩ := mem_findAll leavesEnd_readDeclaration found
  obtain ⟨front, gap, between, inside, rfl, blank, blankBetween, arguments⟩ := call_of_readDeclaration reads
  obtain ⟨c, name, constructor, opens, same⟩ := leads
  have nonempty : rows ≠ [] := by
    rintro rfl
    have lengths := congrArg List.length split
    simp at lengths
  -- The arguments end at a parenthesis or with the text, which the body of the class closes with a line feed.
  have behind : Opens name (inside ++ ['\n']) := by
    have parts : inside = declaration.arguments ++ inside.dropWhile (· != ')') := by
      rw [arguments, List.takeWhile_append_dropWhile]
    rw [parts, List.append_assoc]
    refine opens.append fun d first => ?_
    cases closed : inside.dropWhile (· != ')') with
    | nil =>
      rw [closed] at first
      obtain rfl := Option.some.inj first
      decide
    | cons e others =>
      have parenthesis := List.head?_dropWhile_not (· != ')') inside
      rw [closed] at first parenthesis
      obtain rfl := Option.some.inj first
      have isClosing : e = ')' := by simpa using parenthesis
      subst isClosing
      decide
  have among := mem_findAll_relationTarget (lead ++ front) c blank blankBetween behind
  refine relatesTo_iff.mpr ⟨name, ?_, same⟩
  rw [bodyText, String.toList_ofList, ← intercalate_append_feed nonempty, split, constructor]
  simpa only [List.append_assoc, List.cons_append] using among

end Model

end Plumbline
