import Plumbline.Proofs.Blueprint.Relations
import Plumbline.Proofs.NameMap

namespace Plumbline.Model

open Text

/-- The field declarations in the body of a class, in order. -/
def declarationsIn (body : String) : List Declaration := findAll readDeclaration none body.toList

/-- Whether an item is the last one in a list of those with its name. -/
def IsFinal {α : Type} (name : α → String) (items : List α) (item : α) : Prop :=
  ∃ before after, items = before ++ item :: after ∧ ∀ later ∈ after, name later ≠ name item

theorem isFinal_iff {α : Type} {name : α → String} {items : List α} {item : α} :
    IsFinal name items item ↔ items.reverse.find? (name · == name item) = some item := by
  rw [List.find?_eq_some_iff_append]
  constructor
  · rintro ⟨before, after, rfl, last⟩
    exact ⟨beq_self_eq_true _, after.reverse, before.reverse, by simp, by simpa using last⟩
  · rintro ⟨_, after, before, split, last⟩
    refine ⟨before.reverse, after.reverse, ?_, by simpa using last⟩
    rw [← List.reverse_reverse items, split]
    simp

/-- Whether some field of a model is a relation to a target. -/
def Relates (model : Model) (target : String) : Prop :=
  ∃ field cardinality, model.fieldKinds.get? field = some (.relation cardinality target)

section Fold

variable {declarations : List Declaration} {model : Model} {field target : String}

theorem fields_foldl_addField (declarations : List Declaration) (model : Model) :
    (declarations.foldl addField model).fields = Distinct.addAll model.fields (declarations.map Declaration.field) := by
  induction declarations generalizing model with
  | nil => rfl
  | cons declaration rest ih => exact ih (model.addField declaration)

theorem methods_foldl_addField (declarations : List Declaration) (model : Model) :
    (declarations.foldl addField model).methods = model.methods := by
  induction declarations generalizing model with
  | nil => rfl
  | cons declaration rest ih => exact ih (model.addField declaration)

theorem nodup_relations_foldl_addField (distinct : model.relations.Nodup) :
    (declarations.foldl addField model).relations.Nodup := by
  induction declarations generalizing model with
  | nil => exact distinct
  | cons declaration rest ih => exact ih (Distinct.nodup_addAll distinct _)

/-- Of the declarations of a field the last one counts. -/
theorem get?_foldl_addField (declarations : List Declaration) (model : Model) (field : String) :
    (declarations.foldl addField model).fieldKinds.get? field =
      ((declarations.reverse.find? (·.field == field)).map Declaration.kind).or (model.fieldKinds.get? field) := by
  induction declarations generalizing model with
  | nil => rfl
  | cons declaration rest ih =>
    have here : (model.addField declaration).fieldKinds.get? field =
        if field = declaration.field then some declaration.kind else model.fieldKinds.get? field :=
      NameMap.lookup_insertEntry ..
    rw [List.foldl_cons, ih, here, List.reverse_cons, List.find?_append, Option.map_or, Option.or_assoc]
    by_cases same : declaration.field = field
    · simp [same]
    · simp [same, Ne.symm same]

end Fold

section OfClass

variable {name bases body field target : String}

/-- The fields of a class are those that its body declares, each where it is declared first. -/
theorem fields_ofClass (name bases body : String) :
    (ofClass name bases body).fields = ((declarationsIn body).map Declaration.field).eraseDups := by
  rw [ofClass, fields_foldl_addField, ← Distinct.ofList_eq_eraseDups]
  rfl

theorem get?_ofClass (name bases body field : String) : (ofClass name bases body).fieldKinds.get? field =
    ((declarationsIn body).reverse.find? (·.field == field)).map Declaration.kind := by
  rw [ofClass, get?_foldl_addField]
  exact Option.or_none

theorem mem_keys_ofClass :
    field ∈ (ofClass name bases body).fieldKinds.keys ↔ field ∈ (ofClass name bases body).fields := by
  have kind_iff : (ofClass name bases body).fieldKinds.get? field ≠ none ↔
      ∃ declaration ∈ declarationsIn body, declaration.field = field := by
    rw [get?_ofClass, ne_eq, Option.map_eq_none_iff, List.find?_eq_none]
    simp
  rw [NameMap.mem_keys_iff, fields_ofClass, List.mem_eraseDups, List.mem_map]
  exact kind_iff

/-- The relations that hold are those whose declarations are the last ones of their fields. -/
theorem relates_ofClass_iff : (ofClass name bases body).Relates target ↔
    ∃ declaration, IsFinal Declaration.field (declarationsIn body) declaration ∧
      FieldKind.target? declaration.kind = some target := by
  have aims {kind : FieldKind} : FieldKind.target? kind = some target ↔ ∃ c, kind = .relation c target := by
    cases kind with
    | plain constructor => simp [FieldKind.target?]
    | relation c other => simp [FieldKind.target?]
  simp only [Relates, get?_ofClass, Option.map_eq_some_iff, aims]
  constructor
  · rintro ⟨field, c, declaration, found, kind⟩
    have named : declaration.field = field := by simpa using List.find?_some found
    exact ⟨declaration, isFinal_iff.mpr (named ▸ found), c, kind⟩
  · rintro ⟨declaration, final, c, kind⟩
    exact ⟨declaration.field, c, declaration, isFinal_iff.mp final, kind⟩

theorem methods_ofClass (name bases body : String) : (ofClass name bases body).methods =
    Distinct.ofList ((findAll readMethod none body.toList).filter fun method => method.toList.head? != some '_') := by
  rw [ofClass, methods_foldl_addField]

end OfClass

/-- The lists and the table of a model fit together: each field has a kind and nothing else has one, nothing is listed
twice, no method is hidden, and every relation of a field is listed. -/
structure IsCoherent (model : Model) : Prop where
  fields : model.fields.Nodup
  kinds : ∀ field, field ∈ model.fieldKinds.keys ↔ field ∈ model.fields
  methods : model.methods.Nodup
  shown : ∀ method ∈ model.methods, method.toList.head? ≠ some '_'
  relations : model.relations.Nodup
  related : ∀ target, model.Relates target → target ∈ model.relations

theorem isCoherent_ofClass (name bases body : String) : (ofClass name bases body).IsCoherent where
  fields := by
    rw [fields_ofClass, ← Distinct.ofList_eq_eraseDups]
    exact Distinct.nodup_addAll List.nodup_nil _
  kinds _ := mem_keys_ofClass
  methods := by
    rw [methods_ofClass]
    exact Distinct.nodup_addAll List.nodup_nil _
  shown method member := by
    rw [methods_ofClass] at member
    have found := (Distinct.mem_addAll.mp member).resolve_left List.not_mem_nil
    simpa using (List.mem_filter.mp found).2
  relations := nodup_relations_foldl_addField List.nodup_nil
  related target relates := by
    obtain ⟨declaration, ⟨before, after, split, _⟩, aims⟩ := relates_ofClass_iff.mp relates
    refine mem_relations_ofClass.mpr ⟨declaration, ?_, aims⟩
    rw [← declarationsIn, split]
    exact List.mem_append_right before List.mem_cons_self

/-- Whatever its body, the parts of a model fit together. Its relations are the targets of its fields just when none is
left over: every target that is declared at all is that of the last declaration of some field. -/
theorem isCoherent_ofClass_and_relations_iff (name bases body : String) :
    (ofClass name bases body).IsCoherent ∧
      ((∀ target, target ∈ (ofClass name bases body).relations ↔ (ofClass name bases body).Relates target) ↔
        ∀ declaration ∈ declarationsIn body, ∀ target ∈ FieldKind.target? declaration.kind,
          ∃ last, IsFinal Declaration.field (declarationsIn body) last ∧
            FieldKind.target? last.kind = some target) := by
  have coherent := isCoherent_ofClass name bases body
  refine ⟨coherent, fun same declaration member target aims => ?_, fun lasting target => ⟨fun listed => ?_, ?_⟩⟩
  · exact relates_ofClass_iff.mp ((same target).mp (mem_relations_ofClass.mpr ⟨declaration, member, aims⟩))
  · obtain ⟨declaration, member, aims⟩ := mem_relations_ofClass.mp listed
    exact relates_ofClass_iff.mpr (lasting declaration member target aims)
  · exact coherent.related target

/-- A relation, and the same field once more without one. -/
def redeclaredField : String := "x = models.ForeignKey(A)\nx = models.CharField()\n"

/-- The target of a relation stays when its field is declared again as something else. -/
theorem redeclared_relation_stays :
    "A" ∈ (ofClass "M" "Model" redeclaredField).relations ∧ ¬ (ofClass "M" "Model" redeclaredField).Relates "A" := by
  have kinds : (ofClass "M" "Model" redeclaredField).fieldKinds.entries = [("x", .plain "CharField")] := by
    decide +kernel
  refine ⟨by decide +kernel, ?_⟩
  rintro ⟨field, c, found⟩
  rw [NameMap.get?, kinds] at found
  have other := NameMap.mem_of_lookup found
  simp at other

end Plumbline.Model
