import Plumbline.Blueprint.Extraction
import Plumbline.Proofs.Blueprint.Models
import Plumbline.Proofs.NameMap

namespace Plumbline

namespace Model

open Text

section Put

theorem any_name_iff {models : List Model} {name : String} :
    models.any (·.name == name) = true ↔ name ∈ models.map Model.name := by
  simp [List.any_eq_true, List.mem_map]

theorem name_of_find? {models : List Model} {model : Model} {name : String}
    (found : models.find? (·.name == name) = some model) : model.name = name := by
  simpa using List.find?_some found

/-- A model that takes the place of another has its name. -/
theorem name_replaced (model other : Model) :
    (if other.name = model.name then model else other).name = other.name := by
  split
  · rename_i same
    exact same.symm
  · rfl

theorem names_put (models : List Model) (model : Model) :
    (put models model).map Model.name = Distinct.add (models.map Model.name) model.name := by
  unfold put
  split
  · rename_i there
    rw [Distinct.add_of_mem (any_name_iff.mp there), List.map_map]
    exact List.map_congr_left fun other _ => name_replaced model other
  · rename_i absent
    rw [Distinct.add_of_not_mem (mt any_name_iff.mpr absent), List.map_append, List.map_singleton]

/-- Names stand where they are first declared. -/
theorem names_foldl_put (models new : List Model) :
    (new.foldl put models).map Model.name = Distinct.addAll (models.map Model.name) (new.map Model.name) := by
  induction new generalizing models with
  | nil => rfl
  | cons model rest ih => rw [List.foldl_cons, ih, names_put, List.map_cons, Distinct.addAll_cons]

theorem find?_put (models : List Model) (model : Model) (name : String) :
    (put models model).find? (·.name == name) =
      if model.name = name then some model else models.find? (·.name == name) := by
  unfold put
  split
  · rename_i there
    have renamed : ((fun other : Model => other.name == name) ∘ fun other =>
        if other.name = model.name then model else other) = fun other => other.name == name :=
      funext fun other => congrArg (· == name) (name_replaced model other)
    rw [List.find?_map, renamed]
    by_cases same : model.name = name
    · obtain ⟨other, found⟩ := Option.isSome_iff_exists.mp (List.find?_isSome.mpr (List.any_eq_true.mp (same ▸ there)))
      rw [found, if_pos same, Option.map_some, if_pos ((name_of_find? found).trans same.symm)]
    · rw [if_neg same]
      cases found : models.find? (·.name == name) with
      | none => rfl
      | some other => rw [Option.map_some, if_neg fun replaced => same (replaced.symm.trans (name_of_find? found))]
  · rename_i absent
    rw [List.find?_append]
    by_cases same : model.name = name
    · have none : models.find? (·.name == name) = none :=
        List.find?_eq_none.mpr fun other member named => absent (same ▸ List.any_eq_true.mpr ⟨other, member, named⟩)
      simp [none, same]
    · simp [same]

/-- What holds under a name is what was declared last. -/
theorem find?_foldl_put (models new : List Model) (name : String) :
    (new.foldl put models).find? (·.name == name) =
      (new.reverse.find? (·.name == name)).or (models.find? (·.name == name)) := by
  induction new generalizing models with
  | nil => rfl
  | cons model rest ih =>
    rw [List.foldl_cons, ih, find?_put, List.reverse_cons, List.find?_append, Option.or_assoc]
    by_cases same : model.name = name <;> simp [same]

section Distinct

variable {models others : List Model} {model : Model} {name : String}

theorem find?_name_eq_some_iff (distinct : (models.map Model.name).Nodup) :
    models.find? (·.name == name) = some model ↔ model ∈ models ∧ model.name = name := by
  constructor
  · exact fun found => ⟨List.mem_of_find?_eq_some found, name_of_find? found⟩
  · rintro ⟨member, rfl⟩
    obtain ⟨other, found⟩ : ∃ other, models.find? (·.name == model.name) = some other :=
      Option.isSome_iff_exists.mp (List.find?_isSome.mpr ⟨model, member, beq_self_eq_true _⟩)
    rw [found, List.inj_on_of_nodup_map distinct (List.mem_of_find?_eq_some found) member (name_of_find? found)]

theorem find?_reverse_of_nodup (distinct : (models.map Model.name).Nodup) :
    models.reverse.find? (·.name == name) = models.find? (·.name == name) := by
  have backwards : (models.reverse.map Model.name).Nodup := by rwa [List.map_reverse, List.nodup_reverse]
  refine Option.ext fun model => ?_
  rw [find?_name_eq_some_iff backwards, find?_name_eq_some_iff distinct, List.mem_reverse]

/-- Models of different names are known from their names in order and from what holds under each. -/
theorem filterMap_find?_names (distinct : (models.map Model.name).Nodup) :
    (models.map Model.name).filterMap (fun name => models.find? (·.name == name)) = models := by
  have same : ∀ model ∈ models, models.find? (·.name == model.name) = some model :=
    fun model member => (find?_name_eq_some_iff distinct).mpr ⟨member, rfl⟩
  rw [List.filterMap_map]
  exact (List.filterMap_congr same).trans List.filterMap_some

theorem eq_of_find?_eq (distinct : (models.map Model.name).Nodup)
    (names : models.map Model.name = others.map Model.name)
    (found : ∀ name, models.find? (·.name == name) = others.find? (·.name == name)) : models = others := by
  calc models
      = (models.map Model.name).filterMap fun name => models.find? (·.name == name) :=
        (filterMap_find?_names distinct).symm
    _ = (others.map Model.name).filterMap fun name => others.find? (·.name == name) := by simp only [names, found]
    _ = others := filterMap_find?_names (names ▸ distinct)

end Distinct

theorem nodup_names_foldl_put {models : List Model} (distinct : (models.map Model.name).Nodup) (new : List Model) :
    ((new.foldl put models).map Model.name).Nodup := by
  rw [names_foldl_put]
  exact Distinct.nodup_addAll distinct _

theorem nodup_names_merged (new : List Model) : ((new.foldl put []).map Model.name).Nodup :=
  @nodup_names_foldl_put [] List.nodup_nil new

/-- Models that are merged among themselves first leave the same behind. -/
theorem foldl_put_merged {models : List Model} (distinct : (models.map Model.name).Nodup) (new : List Model) :
    (new.foldl put []).foldl put models = new.foldl put models := by
  refine eq_of_find?_eq (nodup_names_foldl_put distinct _) ?_ fun name => ?_
  · rw [names_foldl_put, names_foldl_put, names_foldl_put]
    exact Distinct.addAll_ofList _ _
  · rw [find?_foldl_put, find?_foldl_put, find?_reverse_of_nodup (nodup_names_merged new), find?_foldl_put,
      List.find?_nil, Option.or_none]

end Put

section Code

open Source

/-- The models of the classes of some code, each as often as it is declared. -/
def declared (code : String) : List Model := (classesAmong (lines code.toList)).filterMap OpenClass.model?

/-- Whether the first line of some code ends the class before it: it is a header with a base list or a comment at the
margin. -/
def BeginsAnew (code : String) : Prop :=
  ∃ line rest, lines code.toList = line :: rest ∧
    ((∃ name bases, classHeader? line = some (name, some bases)) ∨ line.head? = some '#')

theorem classesAmong_append (rows : List (List Char)) {line : List Char} (ends : staysOpen line = false)
    (rest : List (List Char)) :
    classesAmong (rows ++ line :: rest) = classesAmong rows ++ classesAmong (line :: rest) := by
  induction rows with
  | nil => rfl
  | cons row rows ih =>
    cases header : (classHeader? row).bind Prod.snd with
    | some bases =>
      obtain ⟨⟨name, _⟩, opens, rfl⟩ := Option.bind_eq_some_iff.mp header
      rw [List.cons_append, classesAmong_cons_of_header opens, classesAmong_cons_of_header opens, ih,
        takeWhile_append_cons ends, List.cons_append]
    | none => rw [List.cons_append, classesAmong_cons_of_no_header header, classesAmong_cons_of_no_header header, ih]

theorem declared_append {first second : String} (complete : first.toList.getLast? = some '\n')
    (anew : BeginsAnew second) : declared (first ++ second) = declared first ++ declared second := by
  obtain ⟨line, rest, begins, header⟩ := anew
  have ends : staysOpen line = false := by
    rcases header with ⟨name, bases, opens⟩ | comment
    · simp [staysOpen, opens]
    · simp [staysOpen, comment]
  have inOrder : lines (first ++ second).toList = lines first.toList ++ line :: rest := by
    rw [String.toList_append, lines_append (by rw [complete]; rfl), begins]
  rw [declared, inOrder, classesAmong_append _ ends, List.filterMap_append, ← begins]
  rfl

/-- The models of several pieces of code are those of all their classes, put one after another. -/
theorem foldl_put_flatMap_inCode (codes : List String) :
    (codes.flatMap inCode).foldl put [] = (codes.flatMap declared).foldl put [] := by
  have onto {models : List Model} (distinct : (models.map Model.name).Nodup) :
      (codes.flatMap inCode).foldl put models = (codes.flatMap declared).foldl put models := by
    induction codes generalizing models with
    | nil => rfl
    | cons code codes ih =>
      have merged : (inCode code).foldl put models = (declared code).foldl put models := by
        rw [inCode_eq]
        exact foldl_put_merged distinct (declared code)
      rw [List.flatMap_cons, List.flatMap_cons, List.foldl_append, List.foldl_append, merged]
      exact ih (nodup_names_foldl_put distinct (declared code))
  exact onto List.nodup_nil

end Code

end Model

namespace Blueprint

/-- The texts of the pieces of Python in a document. -/
def pythonCode (document : Document) : List String := (document.blocksIn "python").map CodeBlock.text

/-- The models of the classes of a document, each as often as it is declared. -/
def declarations (document : Document) : List Model := (pythonCode document).flatMap Model.declared

theorem models_eq (document : Document) : models document = (declarations document).foldl Model.put [] := by
  rw [models, declarations, ← Model.foldl_put_flatMap_inCode, pythonCode, List.flatMap_map]

section Relationships

variable {models : List Model} {name : String}

theorem mem_keys_relationships_iff :
    name ∈ (relationships models).keys ↔ ∃ model ∈ models, model.name = name ∧ model.relations ≠ [] := by
  rw [relationships, NameMap.mem_keys_ofList]
  simp only [List.map_map, List.mem_map, List.mem_filter, Function.comp_apply, Bool.not_eq_true',
    List.isEmpty_eq_false_iff, and_assoc, and_comm]

theorem get?_relationships {model : Model} (distinct : (models.map Model.name).Nodup) (member : model ∈ models)
    (related : model.relations ≠ []) : (relationships models).get? model.name = some model.relations := by
  have listed : model.name ∈ (relationships models).keys := mem_keys_relationships_iff.mpr ⟨model, member, rfl, related⟩
  obtain ⟨relations, found⟩ := Option.ne_none_iff_exists'.mp (NameMap.mem_keys_iff.mp listed)
  obtain ⟨other, among, same⟩ := List.mem_map.mp (NameMap.mem_entries_ofList (NameMap.mem_of_lookup found))
  obtain ⟨named, rfl⟩ := Prod.mk.inj same
  have isModel : other = model := List.inj_on_of_nodup_map distinct (List.mem_of_mem_filter among) member named
  rw [NameMap.get?, found, isModel]

end Relationships

/-- What the models of a document are: of each name the class that is declared last, in the place of the one that is
declared first. The models that refer to others are the keys of the table of relationships. -/
structure Merges (document : Document) : Prop where
  order : (models document).map Model.name = Distinct.ofList ((declarations document).map Model.name)
  distinct : ((models document).map Model.name).Nodup
  latest : ∀ name, (models document).find? (·.name == name) = (declarations document).reverse.find? (·.name == name)
  keys : ∀ name, name ∈ (relationships (models document)).keys ↔
    ∃ model ∈ models document, model.name = name ∧ model.relations ≠ []
  relations : ∀ model ∈ models document, model.relations ≠ [] →
    (relationships (models document)).get? model.name = some model.relations
  extracted : ∀ text, Document.ofText text = document → (extract text).spec.models = models document ∧
    (extract text).spec.relationships = relationships (models document)

theorem merges (document : Document) : Merges document := by
  have distinct : ((models document).map Model.name).Nodup := models_eq document ▸ Model.nodup_names_merged _
  refine ⟨?order, distinct, ?latest, fun _ => mem_keys_relationships_iff, fun model member related =>
    get?_relationships distinct member related, ?extracted⟩
  case order => rw [models_eq, Model.names_foldl_put]; rfl
  case latest => exact fun name => by rw [models_eq, Model.find?_foldl_put, List.find?_nil, Option.or_none]
  case extracted =>
    rintro text rfl
    simp only [extract, and_self]

theorem declarations_cut {cut whole : Document} {before after : List String} {first second : String}
    (complete : first.toList.getLast? = some '\n') (anew : Model.BeginsAnew second)
    (apart : pythonCode cut = before ++ [first, second] ++ after)
    (together : pythonCode whole = before ++ [first ++ second] ++ after) : declarations cut = declarations whole := by
  rw [declarations, declarations, apart, together]
  simp only [List.flatMap_append, List.flatMap_cons, List.flatMap_nil, List.append_nil,
    Model.declared_append complete anew]

/-- Whether code stands in two pieces or in one does not show in the models, as long as the second piece begins with the
header of a class with a base list or with a comment. -/
theorem models_of_cut {cut whole : Document} {before after : List String} {first second : String}
    (complete : first.toList.getLast? = some '\n') (anew : Model.BeginsAnew second)
    (apart : pythonCode cut = before ++ [first, second] ++ after)
    (together : pythonCode whole = before ++ [first ++ second] ++ after) :
    models cut = models whole ∧ relationships (models cut) = relationships (models whole) ∧
      Merges cut ∧ Merges whole := by
  have same : models cut = models whole := by
    rw [models_eq, models_eq, declarations_cut complete anew apart together]
  exact ⟨same, congrArg relationships same, merges cut, merges whole⟩

/-- Two models. -/
def earlierCode : String := "class Loan(Model):\nclass Client(Model):\n"

/-- The first of the two again, now with a relation. -/
def laterCode : String := "class Loan(Model):\n client = models.ForeignKey(Client)\n"

def fencedCode (code : String) : String := "\x60\x60\x60python\n" ++ code ++ "\x60\x60\x60\n"

theorem models_of_cut_loans :
    let cut := Document.ofText (fencedCode earlierCode ++ fencedCode laterCode)
    let whole := Document.ofText (fencedCode (earlierCode ++ laterCode))
    earlierCode.toList.getLast? = some '\n' ∧ Model.BeginsAnew laterCode ∧
      pythonCode cut = [] ++ [earlierCode, laterCode] ++ [] ∧
      pythonCode whole = [] ++ [earlierCode ++ laterCode] ++ [] ∧ models cut = models whole ∧ (models cut).map Model.name = ["Loan", "Client"] := by
  intro cut whole
  have complete : earlierCode.toList.getLast? = some '\n' := by decide +kernel
  have anew : Model.BeginsAnew laterCode :=
    ⟨"class Loan(Model):".toList, [" client = models.ForeignKey(Client)".toList], by decide +kernel,
      .inl ⟨"Loan".toList, "Model".toList, by decide +kernel⟩⟩
  have apart : pythonCode cut = [] ++ [earlierCode, laterCode] ++ [] := by decide +kernel
  have together : pythonCode whole = [] ++ [earlierCode ++ laterCode] ++ [] := by decide +kernel
  obtain ⟨same, _, merges, _⟩ := models_of_cut complete anew apart together
  refine ⟨complete, anew, apart, together, same, ?_⟩
  rw [merges.order, declarations, apart]
  decide +kernel

end Blueprint

end Plumbline
