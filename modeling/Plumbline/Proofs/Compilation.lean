import Mathlib.Data.List.Nodup
import Plumbline.Compilation
import Plumbline.Proofs.Accounting

namespace Plumbline

namespace Compilation

variable {taken : List String} {rule : Rule} {rules rest : List Rule}

theorem sift_cons_of_mem (here : rule.name ∈ taken) :
    sift taken (rule :: rest) = ((sift taken rest).1, rule.name :: (sift taken rest).2) :=
  if_pos (List.contains_iff_mem.mpr here)

theorem sift_cons_of_not_mem (fresh : rule.name ∉ taken) :
    sift taken (rule :: rest) = (rule :: (sift (rule.name :: taken) rest).1, (sift (rule.name :: taken) rest).2) :=
  if_neg fun here => fresh (List.contains_iff_mem.mp here)

theorem sift_sublist (taken : List String) (rules : List Rule) : (sift taken rules).1.Sublist rules := by
  induction rules generalizing taken with
  | nil => exact List.Sublist.slnil
  | cons rule rest ih =>
    by_cases here : rule.name ∈ taken
    · rw [sift_cons_of_mem here]
      exact (ih taken).cons rule
    · rw [sift_cons_of_not_mem here]
      exact (ih (rule.name :: taken)).cons_cons rule

/-- Every name stays, but for those that were taken before. -/
theorem mem_names_sift {name : String} :
    name ∈ (sift taken rules).1.map Rule.name ↔ name ∈ rules.map Rule.name ∧ name ∉ taken := by
  induction rules generalizing taken with
  | nil => simp [sift]
  | cons rule rest ih =>
    by_cases here : rule.name ∈ taken
    · rw [sift_cons_of_mem here, ih, List.map_cons, List.mem_cons]
      constructor
      · exact fun ⟨later, fresh⟩ => ⟨.inr later, fresh⟩
      · exact fun ⟨either, fresh⟩ => ⟨either.resolve_left fun same => fresh (same ▸ here), fresh⟩
    · rw [sift_cons_of_not_mem here, List.map_cons, List.mem_cons, ih, List.map_cons, List.mem_cons, List.mem_cons]
      by_cases same : name = rule.name
      · simp [same, here]
      · simp [same]

theorem nodup_names_sift (taken : List String) (rules : List Rule) :
    ((sift taken rules).1.map Rule.name).Nodup := by
  induction rules generalizing taken with
  | nil => exact List.nodup_nil
  | cons rule rest ih =>
    by_cases here : rule.name ∈ taken
    · rw [sift_cons_of_mem here]
      exact ih taken
    · rw [sift_cons_of_not_mem here, List.map_cons, List.nodup_cons]
      exact ⟨fun again => (mem_names_sift.mp again).2 List.mem_cons_self, ih (rule.name :: taken)⟩

/-- A rule with a new name stays. -/
theorem mem_sift {before after : List Rule} (fresh : rule.name ∉ taken)
    (first : rule.name ∉ before.map Rule.name) : rule ∈ (sift taken (before ++ rule :: after)).1 := by
  induction before generalizing taken with
  | nil =>
    rw [List.nil_append, sift_cons_of_not_mem fresh]
    exact List.mem_cons_self
  | cons earlier before ih =>
    rw [List.map_cons, List.mem_cons, not_or] at first
    rw [List.cons_append]
    by_cases here : earlier.name ∈ taken
    · rw [sift_cons_of_mem here]
      exact ih fresh first.2
    · rw [sift_cons_of_not_mem here]
      exact List.mem_cons_of_mem earlier (ih (fun again => (List.mem_cons.mp again).elim first.1 fresh) first.2)

/-- Rules of different names all stay. -/
theorem sift_of_nodup (distinct : (rules.map Rule.name).Nodup) (fresh : ∀ rule ∈ rules, rule.name ∉ taken) :
    sift taken rules = (rules, []) := by
  induction rules generalizing taken with
  | nil => rfl
  | cons rule rest ih =>
    rw [List.map_cons, List.nodup_cons] at distinct
    obtain ⟨here, fresh⟩ := List.forall_mem_cons.mp fresh
    have later : ∀ other ∈ rest, other.name ∉ rule.name :: taken := fun other member again =>
      (List.mem_cons.mp again).elim (fun same => distinct.1 (same ▸ List.mem_map_of_mem member)) (fresh other member)
    rw [sift_cons_of_not_mem here, ih distinct.2 later]

/-- The first rule always stays. -/
theorem sift_nil_eq_nil_iff : (sift [] rules).1 = [] ↔ rules = [] := by
  cases rules with
  | nil => exact iff_of_true rfl rfl
  | cons rule rest =>
    rw [sift_cons_of_not_mem List.not_mem_nil]
    exact iff_of_false (List.cons_ne_nil _ _) (List.cons_ne_nil _ _)

/-- Only a name that occurs twice drops a rule. -/
theorem dropped_eq_nil_iff : (sift [] rules).2 = [] ↔ (rules.map Rule.name).Nodup := by
  have length (taken : List String) (rules : List Rule) :
      (sift taken rules).1.length + (sift taken rules).2.length = rules.length := by
    induction rules generalizing taken with
    | nil => rfl
    | cons rule rest ih =>
      by_cases here : rule.name ∈ taken
      · rw [sift_cons_of_mem here, List.length_cons, List.length_cons, ← ih taken, Nat.add_assoc]
      · rw [sift_cons_of_not_mem here, List.length_cons, List.length_cons, ← ih (rule.name :: taken), Nat.add_right_comm]
  constructor
  · intro none
    have all : (sift [] rules).1 = rules := (sift_sublist [] rules).eq_of_length (by rw [← length [] rules, none]; rfl)
    exact all ▸ nodup_names_sift [] rules
  · intro distinct
    rw [sift_of_nodup distinct fun _ _ => List.not_mem_nil]

section OfRules

variable {α : Type} [Scale α] (header : Header) (rules : List Rule)

theorem rules_ofRules : (ofRules (α := α) header rules).manifest.rules = (sift [] rules).1 := rfl

theorem dropped_ofRules : (ofRules (α := α) header rules).dropped = (sift [] rules).2 := rfl

end OfRules

end Compilation

namespace Registry

section Register

variable {registry : Registry} {rule : LinkedRule}

theorem register_of_mem (here : rule.name ∈ registry.rules.map LinkedRule.name) :
    (registry.register rule).rules = registry.rules ∧
      (registry.register rule).rejected = registry.rejected ++ [rule.name] := by
  rw [register, dif_pos here]
  exact ⟨rfl, rfl⟩

theorem register_of_not_mem (fresh : rule.name ∉ registry.rules.map LinkedRule.name) :
    (registry.register rule).rules = registry.rules ++ [rule] ∧
      (registry.register rule).rejected = registry.rejected := by
  rw [register, dif_neg fresh]
  exact ⟨rfl, rfl⟩

end Register

/-- Registering rules one after another parts them as sifting does. -/
theorem foldl_register {rules : List Rule} {registry : Registry} {taken : List String}
    (same : ∀ name, name ∈ taken ↔ name ∈ registry.names) :
    (rules.foldl (fun registry rule => registry.register (.ofRule rule)) registry).rules =
        registry.rules ++ (Compilation.sift taken rules).1.map .ofRule ∧
      (rules.foldl (fun registry rule => registry.register (.ofRule rule)) registry).rejected =
        registry.rejected ++ (Compilation.sift taken rules).2 := by
  induction rules generalizing registry taken with
  | nil => exact ⟨(List.append_nil _).symm, (List.append_nil _).symm⟩
  | cons rule rest ih =>
    rw [List.foldl_cons]
    by_cases here : rule.name ∈ taken
    · obtain ⟨unchanged, refused⟩ := @register_of_mem registry (.ofRule rule) ((same rule.name).mp here)
      have again (name : String) : name ∈ taken ↔ name ∈ (registry.register (.ofRule rule)).names := by
        rw [names, unchanged]
        exact same name
      obtain ⟨rules, rejected⟩ := ih again
      rw [rules, rejected, unchanged, refused, Compilation.sift_cons_of_mem here, List.append_assoc]
      exact ⟨rfl, rfl⟩
    · obtain ⟨added, kept⟩ := @register_of_not_mem registry (.ofRule rule) (mt (same rule.name).mpr here)
      have more (name : String) : name ∈ rule.name :: taken ↔ name ∈ (registry.register (.ofRule rule)).names := by
        rw [mem_names_register, List.mem_cons, same, or_comm]
        rfl
      obtain ⟨rules, rejected⟩ := ih more
      rw [rules, rejected, added, kept, Compilation.sift_cons_of_not_mem here, List.append_assoc, List.map_cons,
        List.singleton_append]
      exact ⟨rfl, rfl⟩

/-- Linking takes up the first rule of each name. -/
theorem rules_link (rules : List Rule) : (link rules).rules = (Compilation.sift [] rules).1.map .ofRule :=
  (foldl_register fun _ => Iff.rfl).1

/-- Linking turns the other rules away. -/
theorem rejected_link (rules : List Rule) : (link rules).rejected = (Compilation.sift [] rules).2 :=
  (foldl_register fun _ => Iff.rfl).2

end Registry

namespace Setting

variable {α : Type} (setting : Setting α)

/-- The rules of a manifest that a run carries out. -/
def carriedOut (manifest : Manifest α) : List Rule :=
  (Compilation.sift [] manifest.rules).1.filter (!setting.configuration.ignores ·.name)

theorem executed_link (manifest : Manifest α) :
    setting.executed (Registry.link manifest.rules).rules = (setting.carriedOut manifest).map .ofRule := by
  rw [Registry.rules_link, executed, carriedOut, List.filter_map]
  rfl

/-- What a run of a compiled manifest carries out was among the rules. -/
theorem mem_of_mem_carriedOut_ofRules [Scale α] {header : Header} {rules : List Rule} {rule : Rule}
    (carried : rule ∈ setting.carriedOut (Compilation.ofRules header rules).manifest) : rule ∈ rules := by
  have kept := List.mem_of_mem_filter carried
  rw [Compilation.rules_ofRules] at kept
  exact (Compilation.sift_sublist [] rules).subset ((Compilation.sift_sublist [] _).subset kept)

end Setting

end Plumbline
