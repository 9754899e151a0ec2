import Plumbline.Proofs.Findings
import Plumbline.Proofs.Score

namespace Plumbline

namespace Tally

/-- The tallies that come about by recording rules one after another. A rule may be recorded as failed without any
issue. -/
inductive Reached : Tally → Prop
  | empty : Reached .empty
  | pass {tally : Tally} (before : Reached tally) : Reached tally.recordPass
  | failure {tally : Tally} (before : Reached tally) (issues : List Issue) : Reached (tally.recordFailure issues)

theorem Reached.counted {tally : Tally} (reached : tally.Reached) : tally.Counted := by
  induction reached with
  | empty => rfl
  | @pass tally _ ih =>
    have before : tally.passed + tally.failed = tally.total := ih
    change tally.passed + 1 + tally.failed = tally.total + 1
    omega
  | @failure tally _ _ ih =>
    have before : tally.passed + tally.failed = tally.total := ih
    change tally.passed + (tally.failed + 1) = tally.total + 1
    omega

theorem Reached.record {tally : Tally} (reached : tally.Reached) (issues : List Issue) :
    (tally.record issues).Reached := by
  unfold Tally.record
  split
  · exact reached.pass
  · exact reached.failure issues

end Tally

/-- Every run reaches its tally by recording the rules it carries out. -/
theorem Setting.tally_reached {α : Type} (setting : Setting α) (rules : List LinkedRule) :
    (setting.tally rules).Reached := by
  unfold tally
  exact List.foldlRecOn _ _ .empty fun tally reached rule _ => reached.record (setting.findings rule)

namespace Score

section Share

variable {weights : Weights Rat} {cap : Rat} {tally : Tally}

theorem ceiling_eq (cap : Rat) : ceiling cap = min (max cap 0) (1 / 2) := by
  have half : max (1 / 2 : Rat) 0 = 1 / 2 := max_eq_left (by norm_num)
  rw [ceiling, max_comm, max_min_distrib_right, half]

theorem half_base_le_exact : base tally / 2 ≤ exact weights cap tally := by
  have half := factor_le_half weights cap tally
  have base := base_nonneg tally
  calc Score.base tally / 2 = Score.base tally * (1 / 2) := by ring
    _ ≤ Score.base tally * (1 - factor weights cap tally) := mul_le_mul_of_nonneg_left (by linarith) base
    _ = exact weights cap tally := (exact_eq weights cap tally).symm

theorem value_of_failed (failed : tally.failed ≠ 0) :
    value weights cap tally = Scale.roundHundredths (exact weights cap tally) := if_neg failed

theorem value_nonneg : 0 ≤ value weights cap tally := by
  unfold value
  split
  · norm_num
  · have rounded := Scale.roundHundredths_mono le_rfl (exact_nonneg weights cap tally)
    rwa [Scale.roundHundredths_nought] at rounded

/-- Whatever the penalty, the share that it takes away is between nought and the cap, and at most one half. -/
theorem factor?_bounds (penalty : Rat) (failed : Nat) (cap : Rat) :
    ∃ factor, factor? penalty failed cap = some factor ∧ 0 ≤ factor ∧ factor ≤ min (max cap 0) (1 / 2) := by
  rw [← ceiling_eq]
  by_cases none : failed = 0
  · exact ⟨0, if_pos none, le_rfl, ceiling_nonneg cap⟩
  · have half : Scale.clamp? (Scale.natural 0) largestFactor cap = some (ceiling cap) :=
      Scale.clamp?_eq (by decide +kernel) cap
    refine ⟨max 0 (min (penalty / (failed * 10)) (ceiling cap)), ?_, le_max_left _ _,
      max_le (ceiling_nonneg cap) (min_le_right _ _)⟩
    rw [factor?, if_neg none, half]
    exact Scale.clamp?_eq (ceiling_nonneg cap) (penalty / (failed * 10))

end Share

/-- Whatever is recorded, under any weights and any cap, the share taken away stays below the cap and one half, and the
score between the share of passed rules and half of it. A score is a percentage, and a full one when no rule failed. -/
theorem score_bounds {tally : Tally} (reached : tally.Reached) (weights : Weights Rat) (cap : Rat) :
    (∃ factor, factor? (weights.totalPenalty tally.issues) tally.failed cap = some factor ∧
      0 ≤ factor ∧ factor ≤ min (max cap 0) (1 / 2)) ∧
    ∃ score, score? tally weights cap = some score ∧ 0 ≤ score ∧ score ≤ 100 ∧
      (tally.failed = 0 → score = 100) ∧
      (tally.failed ≠ 0 → Scale.roundHundredths (base tally / 2) ≤ score ∧
        score ≤ Scale.roundHundredths (base tally)) := by
  refine ⟨factor?_bounds _ _ cap, value weights cap tally, score?_eq weights cap tally, value_nonneg,
    value_le_hundred weights cap reached.counted, fun none => if_pos none, fun failed => ?_⟩
  have base := base_nonneg tally
  rw [value_of_failed failed]
  exact ⟨Scale.roundHundredths_mono (by linarith) half_base_le_exact,
    Scale.roundHundredths_mono (exact_nonneg weights cap tally) (exact_le_base weights cap tally)⟩

/-- Weights of both signs, under which the issues of a run lower its penalty below nought. -/
def signedWeights : Weights Rat := ⟨⟨-15, 8, 0, 1⟩, ⟨1, -1, 2, 0, 1⟩⟩

/-- One rule passed, one failed with an issue and one failed without any. -/
def unevenTally : Tally :=
  (Tally.empty.recordPass.recordFailure [.make "a.py" "missing_file" "" "" "" .critical]).recordFailure []

/-- The bounds hold also when issues take points off a penalty and the cap is below nought. -/
theorem score_bounds_of_signedWeights :
    unevenTally.Reached ∧ ∃ score, score? unevenTally signedWeights (-1) = some score ∧
      Scale.roundHundredths (100 / 6) ≤ score ∧ score ≤ Scale.roundHundredths (100 / 3) := by
  have reached : unevenTally.Reached := .failure (.failure (.pass .empty) _) []
  have third : (base unevenTally : Rat) = 100 / 3 := by decide +kernel
  have sixth : (base unevenTally : Rat) / 2 = 100 / 6 := by rw [third]; norm_num
  obtain ⟨_, score, scored, _, _, _, between⟩ := score_bounds reached signedWeights (-1)
  obtain ⟨lower, upper⟩ := between (by decide)
  rw [sixth] at lower
  rw [third] at upper
  exact ⟨reached, score, scored, lower, upper⟩

end Score

end Plumbline
