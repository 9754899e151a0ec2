import Plumbline.Phase.Target
import Plumbline.Proofs.Compilation

namespace Plumbline

theorem Rule.map_name_given (condition : Bool) (rule : Rule) :
    (Rule.given condition rule).map Rule.name = if condition then [rule.name] else [] := by
  cases condition <;> rfl

namespace Target

/-- What the rule for a model is called behind the name of its target. -/
def modelSuffix (model : String) : String := "model_" ++ lowered model

/-- Whether there is a rule for the relations among some models. -/
def hasRelations (spec : Specification) (models : List String) : Bool :=
  1 < models.length && !(relationsOf spec models).isEmpty

/-- Whether there is a rule for the tenants among some models. -/
def hasTenants (spec : Specification) (models : List String) : Bool :=
  spec.multiTenancy && !spec.baseModelClass.isEmpty && !(tenantModels spec models).isEmpty

/-- The text alone if a condition holds, and none else. -/
def textGiven (condition : Bool) (text : String) : List String := if condition then [text] else []

theorem textGiven_append_sublist {rest others : List String} (later : rest.Sublist others) (condition : Bool)
    (text : String) : (textGiven condition text ++ rest).Sublist (text :: others) := by
  cases condition
  · exact later.cons text
  · exact later.cons_cons text

/-- What the rules behind those for models and relations are called. -/
def otherSuffixes (delivery : Delivery) (spec : Specification) : List String :=
  textGiven (hasTenants spec delivery.models) "tenant_models" ++
  (textGiven (!delivery.views.isEmpty) "api_views" ++
  (textGiven (!delivery.urls.isEmpty) "urls" ++
  (textGiven (!delivery.templates.isEmpty) "templates" ++
  (textGiven (!delivery.components.isEmpty) "components" ++
  (textGiven (!(delivery.models ++ delivery.views).isEmpty) "tests" ++
  (textGiven (!delivery.models.isEmpty) "migrations" ++
  textGiven (!delivery.settings.isEmpty) "settings"))))))

/-- What the rules of a delivery are called behind the name of the target. -/
def suffixes (delivery : Delivery) (spec : Specification) : List String :=
  textGiven (!delivery.files.isEmpty) "files" ++
  (delivery.models.map modelSuffix ++
  (textGiven (hasRelations spec delivery.models) "model_relationships" ++ otherSuffixes delivery spec))

theorem names_deliveryRules (number : Nat) (delivery : Delivery) (spec : Specification) :
    (deliveryRules number delivery spec).map Rule.name = (suffixes delivery spec).map (ruleName number) := by
  have models : (delivery.models.map (modelRule number spec)).map Rule.name =
      (delivery.models.map modelSuffix).map (ruleName number) := by
    rw [List.map_map, List.map_map]
    rfl
  have given' (condition : Bool) (text : String) : (textGiven condition text).map (ruleName number) =
      if condition then [ruleName number text] else [] := by
    cases condition <;> rfl
  simp only [deliveryRules, Target.modelRules, suffixes, otherSuffixes, List.map_append, Rule.map_name_given, models,
    given', List.append_assoc]
  rfl

section Empty

theorem textGiven_eq_nil_iff {condition : Bool} {text : String} :
    textGiven condition text = [] ↔ condition = false := by
  cases condition <;> simp [textGiven]

/-- There is a rule for whatever is delivered. -/
theorem deliveryRules_eq_nil_iff {number : Nat} {delivery : Delivery} {spec : Specification} :
    deliveryRules number delivery spec = [] ↔ delivery.isEmpty = true := by
  have named : deliveryRules number delivery spec = [] ↔ suffixes delivery spec = [] := by
    rw [← List.map_eq_nil_iff (f := Rule.name), names_deliveryRules, List.map_eq_nil_iff]
  rw [named, Delivery.isEmpty]
  simp only [suffixes, otherSuffixes, List.append_eq_nil_iff, textGiven_eq_nil_iff, List.map_eq_nil_iff,
    Bool.not_eq_eq_eq_not, Bool.not_false, List.isEmpty_iff, Bool.and_eq_true]
  constructor
  · rintro ⟨files, models, _, _, views, urls, templates, components, _, _, settings⟩
    exact ⟨⟨⟨⟨⟨⟨models, views⟩, urls⟩, files⟩, templates⟩, components⟩, settings⟩
  · rintro ⟨⟨⟨⟨⟨⟨models, views⟩, urls⟩, files⟩, templates⟩, components⟩, settings⟩
    have relations : hasRelations spec delivery.models = false := by simp [hasRelations, models]
    have tenants : hasTenants spec delivery.models = false := by simp [hasTenants, tenantModels, models]
    exact ⟨files, models, relations, tenants, views, urls, templates, components, ⟨models, views⟩, models, settings⟩

theorem usualViews_ne_nil (band : Band) (hasFinance : Bool) : usualViews band hasFinance ≠ [] := by
  cases band <;> cases hasFinance <;> exact List.cons_ne_nil _ _

/-- A target always delivers something: where nothing is asked for, there are still the usual views. -/
theorem isEmpty_resolve (number : Nat) (asked : Delivery) (spec : Specification) :
    (resolve number asked spec).isEmpty = false := by
  rw [resolve]
  split
  · have views : (usual number spec).views ≠ [] := usualViews_ne_nil _ _
    rw [Delivery.isEmpty, List.isEmpty_eq_false_iff.mpr views]
    simp
  · rename_i something
    exact Bool.not_eq_true _ ▸ something

theorem rules_ne_nil (number : Nat) (asked : Delivery) (spec : Specification) : rules number asked spec ≠ [] := by
  rw [rules, Ne, deliveryRules_eq_nil_iff, isEmpty_resolve]
  exact Bool.false_ne_true

end Empty

/-- The names that rules which are about no model share out among them, but for the rule about relations. -/
def fixedSuffixes : List String :=
  ["files", "tenant_models", "api_views", "urls", "templates", "components", "tests", "migrations", "settings"]

theorem otherSuffixes_sublist (delivery : Delivery) (spec : Specification) :
    (otherSuffixes delivery spec).Sublist ["tenant_models", "api_views", "urls", "templates", "components", "tests",
      "migrations", "settings"] := by
  unfold otherSuffixes
  iterate 7 refine textGiven_append_sublist ?_ _ _
  rw [← List.append_nil (textGiven _ "settings")]
  exact textGiven_append_sublist (List.Sublist.refl []) _ _

section Injective

theorem ruleName_injective (number : Nat) : Function.Injective (ruleName number) := by
  intro a b same
  have texts : "validate_target_" ++ toString number ++ "_" ++ a = "validate_target_" ++ toString number ++ "_" ++ b :=
    same
  exact (String.append_right_inj _).mp texts

theorem modelRule_injective (number : Nat) (spec : Specification) : Function.Injective (modelRule number spec) := by
  intro a b same
  have texts : "Target " ++ toString number ++ ": model " ++ a ++ " and its fields" =
      "Target " ++ toString number ++ ": model " ++ b ++ " and its fields" := congrArg Rule.description same
  exact (String.append_right_inj _).mp ((String.append_left_inj _).mp texts)

end Injective

/-- The names of rules about models and relations begin alike, and those of the others do not. -/
theorem not_mem_fixedSuffixes (about : String) : "model_" ++ about ∉ fixedSuffixes := by
  intro member
  have begins : ∀ text ∈ fixedSuffixes, ¬ "model_".toList <+: text.toList := by decide
  exact begins _ member (by rw [String.toList_append]; exact List.prefix_append _ _)

theorem nodup_map_modelSuffix_iff {models : List String} :
    (models.map modelSuffix).Nodup ↔ (models.map lowered).Nodup := by
  have suffixed : models.map modelSuffix = (models.map lowered).map ("model_" ++ ·) := by
    rw [List.map_map]
    rfl
  have injective : Function.Injective fun text : String => "model_" ++ text :=
    fun _ _ same => (String.append_right_inj _).mp same
  rw [suffixed, List.nodup_map_iff injective]

theorem relationships_mem_iff {models : List String} :
    "model_relationships" ∈ models.map modelSuffix ↔ "relationships" ∈ models.map lowered := by
  have whole : "model_relationships" = "model_" ++ "relationships" := by decide
  rw [whole]
  simp only [List.mem_map, modelSuffix, String.append_right_inj]

/-- What keeps the names of a target's rules apart: its models differ in more than case, and none is called like the
rule about relations where there is one. -/
structure NamesApart (spec : Specification) (models : List String) : Prop where
  lowered : (models.map lowered).Nodup
  reserved : hasRelations spec models = true → "relationships" ∉ models.map Target.lowered

theorem nodup_suffixes_iff {delivery : Delivery} {spec : Specification} :
    (suffixes delivery spec).Nodup ↔ NamesApart spec delivery.models := by
  let files := textGiven (!delivery.files.isEmpty) "files"
  let models := delivery.models.map modelSuffix
  let relations := textGiven (hasRelations spec delivery.models) "model_relationships"
  let others := otherSuffixes delivery spec
  have fixed : (files ++ others).Sublist fixedSuffixes :=
    textGiven_append_sublist (otherSuffixes_sublist delivery spec) _ "files"
  have distinct : (files ++ others).Nodup := fixed.nodup (by decide)
  have mem_relations {text : String} :
      text ∈ relations ↔ hasRelations spec delivery.models = true ∧ text = "model_relationships" := by
    simp only [relations, textGiven]
    split <;> simp_all
  have once : relations.Nodup := by
    simp only [relations, textGiven]
    split <;> simp
  have apart : ∀ text ∈ models ++ relations, text ∉ files ++ others := by
    intro text member either
    rcases List.mem_append.mp member with model | relation
    · obtain ⟨name, _, rfl⟩ := List.mem_map.mp model
      exact not_mem_fixedSuffixes (lowered name) (fixed.subset either)
    · rw [(mem_relations.mp relation).2] at either
      exact absurd (fixed.subset either) (by decide)
  have moved : (suffixes delivery spec).Perm ((models ++ relations) ++ (files ++ others)) := by
    have inOrder : suffixes delivery spec = files ++ (models ++ relations) ++ others := by
      rw [List.append_assoc, List.append_assoc]
      rfl
    rw [inOrder, ← List.append_assoc (models ++ relations)]
    exact List.perm_append_comm.append_right others
  rw [moved.nodup_iff, List.nodup_append, List.nodup_append]
  constructor
  · rintro ⟨⟨named, _, free⟩, _, _⟩
    refine ⟨nodup_map_modelSuffix_iff.mp named, fun related taken => ?_⟩
    exact free _ (relationships_mem_iff.mpr taken) _ (mem_relations.mpr ⟨related, rfl⟩) rfl
  · rintro ⟨named, reserved⟩
    refine ⟨⟨nodup_map_modelSuffix_iff.mpr named, once, ?_⟩, distinct, ?_⟩
    · rintro text model _ relation rfl
      obtain ⟨related, rfl⟩ := mem_relations.mp relation
      exact reserved related (relationships_mem_iff.mp model)
    · rintro text member _ either rfl
      exact apart text member either

/-- The names of a target's rules. -/
theorem names_rules (number : Nat) (asked : Delivery) (spec : Specification) :
    (rules number asked spec).map Rule.name = (suffixes (resolve number asked spec) spec).map (ruleName number) :=
  names_deliveryRules number (resolve number asked spec) spec

theorem nodup_names_rules_iff {number : Nat} {asked : Delivery} {spec : Specification} :
    ((rules number asked spec).map Rule.name).Nodup ↔ NamesApart spec (resolve number asked spec).models := by
  rw [names_rules, List.nodup_map_iff (ruleName_injective number), nodup_suffixes_iff]

/-- The models that a target shares out or is asked for are different where those it takes them from are. -/
theorem nodup_models_resolve {number : Nat} {asked : Delivery} {spec : Specification}
    (declared : spec.modelNames.Nodup) (requested : asked.models.Nodup) :
    (resolve number asked spec).models.Nodup := by
  rw [resolve]
  split
  · exact ((List.take_sublist _ _).trans (List.drop_sublist _ _)).nodup declared
  · exact requested

section Kept

variable {number : Nat} {delivery : Delivery} {spec : Specification}

/-- The rules for models stand behind the one for files. -/
theorem exists_deliveryRules_eq (number : Nat) (delivery : Delivery) (spec : Specification) :
    ∃ files others, deliveryRules number delivery spec =
        files ++ (delivery.models.map (modelRule number spec) ++ others) ∧
      ∀ name ∈ files.map Rule.name, name = ruleName number "files" := by
  simp only [deliveryRules, Target.modelRules, List.append_assoc]
  refine ⟨_, _, rfl, fun name member => ?_⟩
  rw [Rule.map_name_given] at member
  split at member
  · exact List.mem_singleton.mp member
  · exact absurd member List.not_mem_nil

/-- Models that differ in more than case keep their rules. -/
theorem modelRule_mem_sift (apart : (delivery.models.map lowered).Nodup) {model : String}
    (member : model ∈ delivery.models) :
    modelRule number spec model ∈ (Compilation.sift [] (deliveryRules number delivery spec)).1 := by
  obtain ⟨files, others, inOrder, named⟩ := exists_deliveryRules_eq number delivery spec
  obtain ⟨earlier, later, halves⟩ := List.append_of_mem member
  have split : deliveryRules number delivery spec = (files ++ earlier.map (modelRule number spec)) ++
      modelRule number spec model :: (later.map (modelRule number spec) ++ others) := by
    rw [inOrder, halves, List.map_append, List.map_cons, List.append_assoc, List.append_assoc, List.cons_append]
  rw [split]
  refine Compilation.mem_sift List.not_mem_nil fun again => ?_
  rw [List.map_append, List.mem_append] at again
  rcases again with file | model'
  · have same : "model_" ++ lowered model = "files" := ruleName_injective number (named _ file)
    exact not_mem_fixedSuffixes (lowered model) (same ▸ List.mem_cons_self)
  · rw [List.map_map, List.mem_map] at model'
    obtain ⟨other, inside, same⟩ := model'
    have alike : lowered other = lowered model := (String.append_right_inj _).mp (ruleName_injective number same)
    rw [halves, List.map_append, List.map_cons, List.nodup_append] at apart
    exact apart.2.2 _ (List.mem_map_of_mem inside) _ List.mem_cons_self alike

/-- Models that keep their rules differ in more than case. -/
theorem nodup_lowered_of_kept (distinct : delivery.models.Nodup)
    (kept : ∀ model ∈ delivery.models,
      modelRule number spec model ∈ (Compilation.sift [] (deliveryRules number delivery spec)).1) :
    (delivery.models.map lowered).Nodup := by
  refine (List.nodup_map_iff_inj_on distinct).mpr fun a inA b inB same => ?_
  have names : (modelRule number spec a).name = (modelRule number spec b).name := by
    rw [modelRule, modelRule, same]
  have named := Compilation.nodup_names_sift [] (deliveryRules number delivery spec)
  exact modelRule_injective number spec (List.inj_on_of_nodup_map named (kept a inA) (kept b inB) names)

end Kept

/-- A target whose models are different compiles without loss exactly when the names of its rules are apart. That all of
its models keep their rules takes only that the models differ in more than case. -/
theorem compiles_whole_iff {number : Nat} {asked : Delivery} {spec : Specification}
    (declared : spec.modelNames.Nodup) (requested : asked.models.Nodup) (header : Header) :
    let models := (resolve number asked spec).models
    let compilation : Compilation Float := .ofRules header (rules number asked spec)
    (((rules number asked spec).map Rule.name).Nodup ↔ NamesApart spec models) ∧
    (compilation.dropped = [] ↔ NamesApart spec models) ∧
    (NamesApart spec models → compilation.manifest.rules = rules number asked spec) ∧
    ((∀ model ∈ models, modelRule number spec model ∈ compilation.manifest.rules) ↔ (models.map lowered).Nodup) := by
  intro models compilation
  have distinct : models.Nodup := nodup_models_resolve declared requested
  have kept : compilation.manifest.rules = (Compilation.sift [] (rules number asked spec)).1 :=
    Compilation.rules_ofRules header _
  have dropped : compilation.dropped = (Compilation.sift [] (rules number asked spec)).2 :=
    Compilation.dropped_ofRules header _
  rw [kept, dropped]
  refine ⟨nodup_names_rules_iff, Compilation.dropped_eq_nil_iff.trans nodup_names_rules_iff, fun apart => ?_,
    nodup_lowered_of_kept distinct, fun apart model member => modelRule_mem_sift apart member⟩
  rw [Compilation.sift_of_nodup (nodup_names_rules_iff.mpr apart) fun _ _ => List.not_mem_nil]

/-- A delivery of nothing but models. -/
def ofModels (models : List String) : Delivery := { Delivery.none with models := models }

def sampleHeader : Header := ⟨"validator", "", "target_1", ⟨2026, 1, 1, 0, 0, 0⟩⟩

theorem compiles_loan_and_client :
    let compilation : Compilation Float := .ofRules sampleHeader (rules 1 (ofModels ["Loan", "Client"]) .empty)
    Specification.empty.modelNames.Nodup ∧ (ofModels ["Loan", "Client"]).models.Nodup ∧ compilation.dropped = [] ∧
      ∀ model ∈ ["Loan", "Client"], modelRule 1 .empty model ∈ compilation.manifest.rules := by
  intro compilation
  have declared : Specification.empty.modelNames.Nodup := List.nodup_nil
  have requested : (ofModels ["Loan", "Client"]).models.Nodup := by decide
  obtain ⟨_, dropped, _, kept⟩ := @compiles_whole_iff 1 _ _ declared requested sampleHeader
  have apart : NamesApart .empty (ofModels ["Loan", "Client"]).models := ⟨by decide, by decide⟩
  exact ⟨declared, requested, dropped.mpr apart, kept.mpr apart.lowered⟩

/-- Two models that differ in case only have rules of one name. -/
theorem models_that_differ_in_case_clash :
    ¬ ∀ (number : Nat) (asked : Delivery) (spec : Specification), spec.modelNames.Nodup → asked.models.Nodup →
      ((rules number asked spec).map Rule.name).Nodup := by
  intro distinct
  have named := distinct 1 (ofModels ["Loan", "loan"]) .empty List.nodup_nil (by decide)
  have apart : (["Loan", "loan"].map lowered).Nodup := (nodup_names_rules_iff.mp named).lowered
  revert apart
  decide

end Target

end Plumbline
