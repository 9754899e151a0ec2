import Plumbline.Run

namespace Plumbline

namespace Tally

@[simp] theorem record_total (tally : Tally) (issues : List Issue) : (tally.record issues).total = tally.total + 1 := by
  unfold record
  split <;> rfl

@[simp] theorem record_passed (tally : Tally) (issues : List Issue) :
    (tally.record issues).passed = tally.passed + if issues.isEmpty then 1 else 0 := by
  unfold record
  split <;> rfl

@[simp] theorem record_failed (tally : Tally) (issues : List Issue) :
    (tally.record issues).failed = tally.failed + if issues.isEmpty then 0 else 1 := by
  unfold record
  split <;> rfl

@[simp] theorem record_issues (tally : Tally) (issues : List Issue) :
    (tally.record issues).issues = tally.issues ++ issues := by
  unfold record
  split
  · rename_i empty
    rw [List.isEmpty_iff.mp empty, List.append_nil]
    rfl
  · rfl

/-- Every rule that was carried out passed or failed. -/
def Counted (tally : Tally) : Prop := tally.passed + tally.failed = tally.total

theorem Counted.record {tally : Tally} (counted : tally.Counted) (issues : List Issue) :
    (tally.record issues).Counted := by
  unfold Counted at counted ⊢
  rw [record_passed, record_failed, record_total]
  split <;> omega

/-- As many rules were carried out, no fewer of them passed, and nothing was found that was not found before. -/
structure Eases (fewer more : Tally) : Prop where
  total : fewer.total = more.total
  passed : more.passed ≤ fewer.passed
  issues : fewer.issues.Sublist more.issues

theorem Eases.refl (tally : Tally) : tally.Eases tally := ⟨rfl, Nat.le_refl _, .refl _⟩

/-- One more rule that finds no more keeps a tally easier. -/
theorem Eases.record {fewer more : Tally} {found found' : List Issue} (eases : fewer.Eases more)
    (sub : found.Sublist found') : (fewer.record found).Eases (more.record found') := by
  have passes : found'.isEmpty → found.isEmpty := by
    intro empty
    rw [List.isEmpty_iff.mp empty] at sub
    exact List.isEmpty_iff.mpr (List.sublist_nil.mp sub)
  refine ⟨?_, ?_, ?_⟩
  · rw [record_total, record_total, eases.total]
  · have passed := eases.passed
    rw [record_passed, record_passed]
    by_cases empty : found'.isEmpty
    · rw [if_pos empty, if_pos (passes empty)]
      omega
    · rw [if_neg empty]
      omega
  · rw [record_issues, record_issues]
    exact eases.issues.append sub

end Tally

namespace Setting

variable {α : Type}

theorem tally_counted (setting : Setting α) (rules : List LinkedRule) : (setting.tally rules).Counted := by
  unfold tally
  exact List.foldlRecOn _ _ rfl fun tally counted rule _ => counted.record (setting.findings rule)

/-- A run in which every rule that is carried out finds no more than in another run has an easier tally. -/
theorem tally_eases {first second : Setting α} {rules : List LinkedRule}
    (sameRules : ∀ rule ∈ rules, second.ignores rule = first.ignores rule)
    (fewer : ∀ rule ∈ rules, first.ignores rule = false → (second.findings rule).Sublist (first.findings rule)) :
    (second.tally rules).Eases (first.tally rules) := by
  have executed : rules.filter (!second.ignores ·) = rules.filter (!first.ignores ·) :=
    List.filter_congr fun rule member => congrArg not (sameRules rule member)
  unfold tally
  rw [executed]
  refine List.foldl_rel (.refl _) fun rule member before after eases => eases.record ?_
  obtain ⟨listed, kept⟩ := List.mem_filter.mp member
  exact fewer rule listed (by simpa using kept)

end Setting

end Plumbline
