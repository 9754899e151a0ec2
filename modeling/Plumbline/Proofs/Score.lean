import Mathlib.Algebra.Order.Field.Rat
import Mathlib.Data.Rat.Floor
import Mathlib.Tactic.FieldSimp
import Mathlib.Tactic.Linarith
import Mathlib.Tactic.Positivity
import Plumbline.Proofs.Tally

namespace Plumbline

namespace Scale

/-- Between bounds in order there is always a nearest number. -/
theorem clamp?_eq {low high : Rat} (ordered : low ≤ high) (x : Rat) : clamp? low high x = some (max low (min x high)) := by
  unfold clamp?
  rw [if_pos ordered]
  congr 1
  by_cases below : x < low
  · rw [if_pos below, min_eq_left (below.le.trans ordered), max_eq_left below.le]
  · rw [if_neg below]
    by_cases above : high < x
    · rw [if_pos above, min_eq_right above.le, max_eq_right ordered]
    · rw [if_neg above, min_eq_left (not_lt.mp above), max_eq_right (not_lt.mp below)]

theorem orNought_eq (x : Rat) : orNought x = max 0 x := by
  unfold orNought
  by_cases nonneg : 0 ≤ x
  · exact (if_pos nonneg).trans (max_eq_right nonneg).symm
  · exact (if_neg nonneg).trans (max_eq_left (not_le.mp nonneg).le).symm

theorem round_mono {a b : Rat} (nonneg : 0 ≤ a) (le : a ≤ b) : (round a : Rat) ≤ round b := by
  have roundUp : ∀ q : Rat, 0 ≤ q → (round q : Rat) = (⌊q + 1 / 2⌋ : Rat) := fun q nonneg => if_pos nonneg
  rw [roundUp a nonneg, roundUp b (nonneg.trans le)]
  exact_mod_cast Int.floor_mono (by linarith)

theorem roundHundredths_mono {a b : Rat} (nonneg : 0 ≤ a) (le : a ≤ b) : roundHundredths a ≤ roundHundredths b := by
  have scaled : a * 100 ≤ b * 100 := by linarith
  have rounded : (round (a * 100) : Rat) ≤ round (b * 100) := round_mono (by linarith) scaled
  exact div_le_div_of_nonneg_right rounded (show (0 : Rat) ≤ 100 by norm_num)

theorem roundHundredths_hundred : roundHundredths (100 : Rat) = 100 := by decide +kernel

theorem roundHundredths_nought : roundHundredths (0 : Rat) = 0 := by decide +kernel

end Scale

namespace Weights

theorem totalPenalty_eq_sum (weights : Weights Rat) (issues : List Issue) :
    weights.totalPenalty issues = (issues.map weights.penalty).sum := by
  have shifted : ∀ sum : Rat,
      issues.foldl (fun sum issue => sum + weights.penalty issue) sum = sum + (issues.map weights.penalty).sum := by
    induction issues with
    | nil => simp
    | cons issue issues ih =>
      intro sum
      rw [List.foldl_cons, ih, List.map_cons, List.sum_cons, add_assoc]
  exact (shifted 0).trans (zero_add _)

/-- Fewer issues weigh no more. -/
theorem totalPenalty_le_of_sublist {weights : Weights Rat} (nonneg : ∀ issue, 0 ≤ weights.penalty issue)
    {fewer more : List Issue} (sub : fewer.Sublist more) : weights.totalPenalty fewer ≤ weights.totalPenalty more := by
  rw [totalPenalty_eq_sum, totalPenalty_eq_sum]
  exact (sub.map _).sum_le_sum (List.forall_mem_map.mpr fun issue _ => nonneg issue)

theorem default_penalty_nonneg (issue : Issue) : 0 ≤ (Weights.default : Weights Rat).penalty issue := by
  have all : ∀ severity category,
      (0 : Rat) ≤ (Weights.default : Weights Rat).severity.of severity * (Weights.default : Weights Rat).category.of category := by
    intro severity category
    cases severity <;> cases category <;> decide +kernel
  exact all issue.severity issue.category

end Weights

namespace Score

/-- The largest share of a score that may be taken away under a cap. -/
def ceiling (cap : Rat) : Rat := max 0 (min cap (1 / 2))

/-- The penalty that falls on each failed rule on average, ten points as one. -/
def strain (weights : Weights Rat) (tally : Tally) : Rat := weights.totalPenalty tally.issues / (tally.failed * 10)

/-- The share of the score that is taken away. -/
def factor (weights : Weights Rat) (cap : Rat) (tally : Tally) : Rat := max 0 (min (strain weights tally) (ceiling cap))

/-- The score as it is before rounding. -/
def exact (weights : Weights Rat) (cap : Rat) (tally : Tally) : Rat :=
  tally.passed / tally.total * 100 * (1 - factor weights cap tally)

theorem ceiling_nonneg (cap : Rat) : 0 ≤ ceiling cap := le_max_left _ _

theorem ceiling_le_half (cap : Rat) : ceiling cap ≤ 1 / 2 := max_le (by norm_num) (min_le_right _ _)

theorem factor_nonneg (weights : Weights Rat) (cap : Rat) (tally : Tally) : 0 ≤ factor weights cap tally :=
  le_max_left _ _

theorem factor_le_ceiling (weights : Weights Rat) (cap : Rat) (tally : Tally) :
    factor weights cap tally ≤ ceiling cap :=
  max_le (ceiling_nonneg cap) (min_le_right _ _)

theorem factor_le_half (weights : Weights Rat) (cap : Rat) (tally : Tally) : factor weights cap tally ≤ 1 / 2 :=
  (factor_le_ceiling weights cap tally).trans (ceiling_le_half cap)

theorem factor_mono {weights : Weights Rat} {tally tally' : Tally} (cap : Rat)
    (le : strain weights tally ≤ strain weights tally') : factor weights cap tally ≤ factor weights cap tally' :=
  max_le_max le_rfl (min_le_min le le_rfl)

theorem exact_eq (weights : Weights Rat) (cap : Rat) (tally : Tally) :
    exact weights cap tally = base tally * (1 - factor weights cap tally) := rfl

theorem base_nonneg (tally : Tally) : (0 : Rat) ≤ base tally := by
  change (0 : Rat) ≤ tally.passed / tally.total * 100
  positivity

theorem base_le_hundred {tally : Tally} (counted : tally.Counted) : (base tally : Rat) ≤ 100 := by
  have passed : (tally.passed : Rat) ≤ tally.total := by
    unfold Tally.Counted at counted
    exact_mod_cast Nat.le.intro counted
  have share : (tally.passed / tally.total : Rat) ≤ 1 := div_le_one_of_le₀ passed (Nat.cast_nonneg _)
  change (tally.passed / tally.total * 100 : Rat) ≤ 100
  linarith

theorem exact_nonneg (weights : Weights Rat) (cap : Rat) (tally : Tally) : 0 ≤ exact weights cap tally := by
  have half := factor_le_half weights cap tally
  exact mul_nonneg (base_nonneg tally) (by linarith)

theorem exact_le_base (weights : Weights Rat) (cap : Rat) (tally : Tally) : exact weights cap tally ≤ base tally := by
  have taken := factor_nonneg weights cap tally
  rw [exact_eq]
  exact mul_le_of_le_one_right (base_nonneg tally) (by linarith)

theorem factor?_eq (weights : Weights Rat) (cap : Rat) {tally : Tally} (failed : tally.failed ≠ 0) :
    factor? (weights.totalPenalty tally.issues) tally.failed cap = some (factor weights cap tally) := by
  have half : Scale.clamp? (Scale.natural 0) largestFactor cap = some (ceiling cap) :=
    Scale.clamp?_eq (by decide +kernel) cap
  rw [factor?, if_neg failed, half]
  exact Scale.clamp?_eq (ceiling_nonneg cap) (strain weights tally)

/-- The score that a tally has. -/
def value (weights : Weights Rat) (cap : Rat) (tally : Tally) : Rat :=
  if tally.failed = 0 then 100 else Scale.roundHundredths (exact weights cap tally)

/-- Over exact numbers every tally has a score. -/
theorem score?_eq (weights : Weights Rat) (cap : Rat) (tally : Tally) :
    score? tally weights cap = some (value weights cap tally) := by
  unfold score? value
  split
  · rfl
  · rename_i failed
    rw [factor?_eq weights cap failed, Option.map_some, Scale.orNought_eq]
    exact congrArg (fun share => some (Scale.roundHundredths share)) (max_eq_right (exact_nonneg weights cap tally))

theorem exact_le_hundred (weights : Weights Rat) (cap : Rat) {tally : Tally} (counted : tally.Counted) :
    exact weights cap tally ≤ 100 := (exact_le_base weights cap tally).trans (base_le_hundred counted)

theorem value_le_hundred (weights : Weights Rat) (cap : Rat) {tally : Tally} (counted : tally.Counted) :
    value weights cap tally ≤ 100 := by
  unfold value
  split
  · exact le_rfl
  · have rounded := Scale.roundHundredths_mono (exact_nonneg weights cap tally) (exact_le_hundred weights cap counted)
    rwa [Scale.roundHundredths_hundred] at rounded

section Comparison

variable {weights : Weights Rat} {cap : Rat} {fewer more : Tally}

theorem base_mono (eases : fewer.Eases more) :
    (more.passed / more.total * 100 : Rat) ≤ fewer.passed / fewer.total * 100 := by
  have passed : (more.passed : Rat) ≤ fewer.passed := by exact_mod_cast eases.passed
  rw [eases.total]
  gcongr

theorem exact_mono (eases : fewer.Eases more) (le : factor weights cap fewer ≤ factor weights cap more) :
    exact weights cap more ≤ exact weights cap fewer := by
  have half := factor_le_half weights cap more
  have base : (0 : Rat) ≤ fewer.passed / fewer.total * 100 := by positivity
  exact mul_le_mul (base_mono eases) (by linarith) (by linarith) base

/-- Among as many failed rules a smaller penalty is smaller on average. -/
theorem strain_le (failed : fewer.failed = more.failed)
    (penalty : weights.totalPenalty fewer.issues ≤ weights.totalPenalty more.issues) :
    strain weights fewer ≤ strain weights more := by
  unfold strain
  rw [failed]
  gcongr

theorem strain_mono (nonneg : ∀ issue, 0 ≤ weights.penalty issue) (eases : fewer.Eases more)
    (failed : fewer.failed = more.failed) : strain weights fewer ≤ strain weights more :=
  strain_le failed (Weights.totalPenalty_le_of_sublist nonneg eases.issues)

/-- How fewer issues come to lower a score: a rule that used to fail passes, which leaves the penalty to fewer failed
rules, and the larger penalty on each of these outweighs the larger share of rules that pass. -/
structure Concentrates (weights : Weights Rat) (cap : Rat) (more fewer : Tally) : Prop where
  fails : 0 < fewer.failed
  passes : fewer.failed < more.failed
  uncapped : strain weights more < ceiling cap
  rises : strain weights more < strain weights fewer
  outweighs : exact weights cap fewer < exact weights cap more

theorem concentrates_of_value_lt (nonneg : ∀ issue, 0 ≤ weights.penalty issue) (eases : fewer.Eases more)
    (counted : more.Counted) (counted' : fewer.Counted) (drops : value weights cap fewer < value weights cap more) :
    Concentrates weights cap more fewer := by
  have someFail : fewer.failed ≠ 0 := by
    intro none
    have perfect : value weights cap fewer = 100 := if_pos none
    exact absurd (value_le_hundred weights cap counted) (not_le.mpr (perfect ▸ drops))
  have failed : fewer.failed ≤ more.failed := by
    have total := eases.total
    have passed := eases.passed
    unfold Tally.Counted at counted counted'
    omega
  -- Rounding keeps order, so that a lower score comes from a lower exact one.
  have outweighs : exact weights cap fewer < exact weights cap more := by
    by_contra le
    have rounded := Scale.roundHundredths_mono (exact_nonneg weights cap more) (not_lt.mp le)
    rw [value, value, if_neg someFail, if_neg (by omega)] at drops
    exact absurd rounded (not_le.mpr drops)
  have takesMore : factor weights cap more < factor weights cap fewer := by
    by_contra le
    exact absurd (exact_mono eases (not_lt.mp le)) (not_le.mpr outweighs)
  have rises : strain weights more < strain weights fewer := by
    by_contra le
    exact absurd (factor_mono cap (not_lt.mp le)) (not_le.mpr takesMore)
  refine ⟨Nat.pos_of_ne_zero someFail, ?_, ?_, rises, outweighs⟩
  · by_contra le
    exact absurd (strain_mono nonneg eases (by omega)) (not_le.mpr rises)
  · -- At the cap the share that is taken away cannot grow any more.
    by_contra capped
    have full : ceiling cap ≤ factor weights cap more := le_max_of_le_right (le_min (not_lt.mp capped) le_rfl)
    exact absurd ((factor_le_ceiling weights cap fewer).trans full) (not_le.mpr takesMore)

/-- Whatever fewer issues do to the mean penalty, they leave the share of passed rules less the cap. -/
theorem floor_le_value (eases : fewer.Eases more) (counted : more.Counted) :
    Scale.roundHundredths (more.passed / more.total * 100 * (1 - ceiling cap)) ≤ value weights cap fewer := by
  have half := ceiling_le_half cap
  have least : ∀ tally : Tally, more.passed / more.total * 100 ≤ (tally.passed / tally.total * 100 : Rat) →
      more.passed / more.total * 100 * (1 - ceiling cap) ≤ exact weights cap tally := by
    intro tally base
    have taken := factor_le_ceiling weights cap tally
    exact mul_le_mul base (by linarith) (by linarith) (by positivity)
  have nonneg : (0 : Rat) ≤ more.passed / more.total * 100 * (1 - ceiling cap) :=
    mul_nonneg (by positivity) (by linarith)
  unfold value
  split
  · have most := (least more le_rfl).trans (exact_le_hundred weights cap counted)
    have rounded := Scale.roundHundredths_mono nonneg most
    rwa [Scale.roundHundredths_hundred] at rounded
  · exact Scale.roundHundredths_mono nonneg (least fewer (base_mono eases))

end Comparison

end Score

end Plumbline
