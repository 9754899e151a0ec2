import Mathlib.Data.List.Infix
import Plumbline.Proofs.Compilation

namespace Plumbline

namespace Compilation

/-- Each rule with the names of the rules in front of it. -/
def withEarlier (rules : List Rule) : List (Rule × List String) := rules.zip (rules.map Rule.name).inits

/-- Whether the name of a rule is taken already, or is that of a rule in front of it. -/
def isRepeat (taken : List String) (placed : Rule × List String) : Bool := (taken ++ placed.2).contains placed.1.name

/-- The rules whose names are new where they stand. -/
def firsts (rules : List Rule) : List Rule := ((withEarlier rules).filter (!isRepeat [] ·)).map (·.1)

/-- The names of the other rules. -/
def repeats (rules : List Rule) : List String := ((withEarlier rules).filter (isRepeat [])).map (·.1.name)

section Sifted

variable {taken : List String} {rule : Rule}

theorem withEarlier_cons (rest : List Rule) :
    withEarlier (rule :: rest) =
      (rule, []) :: (withEarlier rest).map fun placed => (placed.1, rule.name :: placed.2) := by
  rw [withEarlier, List.map_cons, List.inits_cons, List.zip_cons_cons, List.zip_map_right]
  rfl

theorem isRepeat_iff {placed : Rule × List String} :
    isRepeat taken placed = true ↔ placed.1.name ∈ taken ∨ placed.1.name ∈ placed.2 := by
  rw [isRepeat, List.contains_iff_mem, List.mem_append]

/-- A name in front of a rule may as well be taken before. -/
theorem isRepeat_behind {name : String} {placed : Rule × List String} :
    isRepeat taken (placed.1, name :: placed.2) = isRepeat (name :: taken) placed := by
  rw [Bool.eq_iff_iff, isRepeat_iff, isRepeat_iff, List.mem_cons, List.mem_cons]
  exact or_left_comm.trans or_assoc.symm

theorem isRepeat_cons_of_mem {name : String} (here : name ∈ taken) : isRepeat (name :: taken) = isRepeat taken := by
  funext placed
  rw [Bool.eq_iff_iff, isRepeat_iff, isRepeat_iff, List.mem_cons]
  exact or_congr_left ⟨fun either => either.elim (fun same => same ▸ here) id, .inr⟩

/-- What sifting keeps and drops when some names are taken before it begins. -/
theorem sift_eq (taken : List String) (rules : List Rule) :
    sift taken rules =
      (((withEarlier rules).filter (!isRepeat taken ·)).map (·.1),
        ((withEarlier rules).filter (isRepeat taken)).map (·.1.name)) := by
  induction rules generalizing taken with
  | nil => rfl
  | cons rule rest ih =>
    have self : isRepeat taken (rule, []) = true ↔ rule.name ∈ taken := by simp [isRepeat_iff]
    rw [withEarlier_cons]
    by_cases here : rule.name ∈ taken
    · rw [sift_cons_of_mem here, ih]
      simp [List.filter_map, Function.comp_def, isRepeat_behind, isRepeat_cons_of_mem here, self.mpr here]
    · have fresh : isRepeat taken (rule, []) = false := Bool.eq_false_iff.mpr (mt self.mp here)
      rw [sift_cons_of_not_mem here, ih]
      simp [List.filter_map, Function.comp_def, isRepeat_behind, fresh]

end Sifted

/-- Sifting keeps the rules of new names and reports the names of the others. -/
theorem sift_nil_eq (rules : List Rule) : sift [] rules = (firsts rules, repeats rules) := sift_eq [] rules

/-- Every name is kept or reported, as often as it occurs. -/
theorem names_perm (rules : List Rule) :
    ((firsts rules).map Rule.name ++ repeats rules).Perm (rules.map Rule.name) := by
  have fits : rules.length ≤ (rules.map Rule.name).inits.length := by
    rw [List.length_inits, List.length_map]
    exact Nat.le_succ _
  have all : (withEarlier rules).map (·.1.name) = rules.map Rule.name := by
    calc (withEarlier rules).map (·.1.name)
        = ((withEarlier rules).map Prod.fst).map Rule.name := (List.map_map).symm
      _ = rules.map Rule.name := by rw [withEarlier, List.map_fst_zip fits]
  have parted : ((withEarlier rules).filter (!isRepeat [] ·) ++ (withEarlier rules).filter (isRepeat [])).Perm
      (withEarlier rules) := by
    simpa only [Bool.not_not] using List.filter_append_perm (!isRepeat [] ·) (withEarlier rules)
  have named := parted.map (·.1.name)
  rw [List.map_append, all] at named
  rwa [firsts, repeats, List.map_map]

theorem nodup_names_firsts (rules : List Rule) : ((firsts rules).map Rule.name).Nodup := by
  have once := nodup_names_sift [] rules
  rwa [sift_nil_eq] at once

/-- Among the first rules of each name nothing repeats. -/
theorem firsts_firsts (rules : List Rule) :
    firsts (firsts rules) = firsts rules ∧ repeats (firsts rules) = [] := by
  have settled := sift_of_nodup (nodup_names_firsts rules) fun _ _ => List.not_mem_nil
  rw [sift_nil_eq] at settled
  exact Prod.mk.inj settled

/-- Compiling keeps the first rule of each name and reports the others, linking the same rules takes up and turns away
the same ones, and what was compiled once is left as it is by both. -/
theorem ofRules_agrees_with_link {α : Type} [Scale α] (header again : Header) (rules : List Rule) :
    let compiled : Compilation α := ofRules header rules
    let recompiled : Compilation α := ofRules again compiled.manifest.rules
    (compiled.manifest.rules = firsts rules ∧ compiled.dropped = repeats rules ∧
      ((firsts rules).map Rule.name ++ repeats rules).Perm (rules.map Rule.name) ∧
      compiled.ruleCount = (firsts rules).length ∧ compiled.ruleCount + compiled.dropped.length = rules.length) ∧
    ((Registry.link rules).rules = compiled.manifest.rules.map .ofRule ∧
      (Registry.link rules).rejected = compiled.dropped) ∧
    ((Registry.link compiled.manifest.rules).rules = (Registry.link rules).rules ∧
      (Registry.link compiled.manifest.rules).rejected = []) ∧
    recompiled.manifest.rules = compiled.manifest.rules ∧ recompiled.dropped = [] := by
  have names := names_perm rules
  have count := names.length_eq
  rw [List.length_append, List.length_map, List.length_map] at count
  obtain ⟨kept, none⟩ := firsts_firsts rules
  simp only [ruleCount, rules_ofRules, dropped_ofRules, Registry.rules_link, Registry.rejected_link, sift_nil_eq,
    kept, none]
  exact ⟨⟨trivial, trivial, names, trivial, count⟩, ⟨trivial, trivial⟩, ⟨trivial, trivial⟩, trivial, trivial⟩

end Compilation

end Plumbline
