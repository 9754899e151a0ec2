import Plumbline.Score

namespace Plumbline

/-- Nought as the arithmetic of doubles sees it. -/
theorem Scale.unpack_nought : (Scale.natural 0 : Float).toModel.unpack = .zero .positive := by rfl

section Comparison

variable {x y : Float}

theorem Scale.lt_iff_unpack : x < y ↔ x.toModel.unpack.lt y.toModel.unpack = true := by
  change decide (x.toModel < y.toModel) = true ↔ _
  rw [decide_eq_true_iff]
  rfl

theorem Scale.le_iff_unpack : x ≤ y ↔ x.toModel.unpack.le y.toModel.unpack = true := by
  change decide (x.toModel ≤ y.toModel) = true ↔ _
  rw [decide_eq_true_iff]
  rfl

/-- Only what is not a number is on neither side of nought. -/
theorem Scale.isNaN_eq_false_iff : x.isNaN = false ↔ x < Scale.natural 0 ∨ Scale.natural 0 ≤ x := by
  rw [lt_iff_unpack, le_iff_unpack, unpack_nought]
  change x.toModel.unpack.isNaN = false ↔ _
  cases x.toModel.unpack with
  | notANumber => decide
  | zero sign => exact iff_of_true rfl (.inr rfl)
  | infinity sign => cases sign <;> decide
  | finite sign mantissa exponent positive =>
    cases sign with
    | positive => exact iff_of_true rfl (.inr rfl)
    | negative => exact iff_of_true rfl (.inl rfl)

theorem Scale.isNaN_eq_false_of_lt (above : x < y) : y.isNaN = false := by
  rw [lt_iff_unpack] at above
  change y.toModel.unpack.isNaN = false
  cases atY : y.toModel.unpack with
  | notANumber =>
    rw [atY] at above
    cases atX : x.toModel.unpack <;> rw [atX] at above <;> contradiction
  | _ => rfl

end Comparison

namespace Score

theorem nought_le_half : (Scale.natural 0 : Float) ≤ largestFactor := by decide

theorem nought_le_nought : (Scale.natural 0 : Float) ≤ Scale.natural 0 := by decide

/-- A cap leaves a share to choose from exactly when it is a number. -/
theorem nought_le_of_clamp? {cap ceiling : Float}
    (clamped : Scale.clamp? (Scale.natural 0) largestFactor cap = some ceiling) :
    Scale.natural 0 ≤ ceiling ↔ cap.isNaN = false := by
  rw [Scale.clamp?, if_pos nought_le_half, Option.some.injEq] at clamped
  subst clamped
  by_cases below : cap < Scale.natural 0
  · rw [if_pos below]
    exact iff_of_true nought_le_nought (Scale.isNaN_eq_false_iff.mpr (.inl below))
  · rw [if_neg below]
    by_cases above : largestFactor < cap
    · rw [if_pos above]
      exact iff_of_true nought_le_half (Scale.isNaN_eq_false_of_lt above)
    · rw [if_neg above, Scale.isNaN_eq_false_iff]
      exact ⟨Or.inr, fun either => either.resolve_left below⟩

/-- Doubles have a score unless rules fail under a cap that is not a number. -/
theorem isSome_score?_iff {tally : Tally} {weights : Weights Float} {cap : Float} :
    (score? tally weights cap).isSome = true ↔ tally.failed = 0 ∨ cap.isNaN = false := by
  unfold score?
  split
  · rename_i none
    exact iff_of_true rfl (.inl none)
  · rename_i some
    have clamped : ∃ ceiling, Scale.clamp? (Scale.natural 0) largestFactor cap = Option.some ceiling := by
      rw [Scale.clamp?, if_pos nought_le_half]
      exact ⟨_, rfl⟩
    obtain ⟨ceiling, clamped⟩ := clamped
    have number := nought_le_of_clamp? clamped
    rw [Option.isSome_map, factor?, if_neg some, clamped, Option.bind_eq_bind, Option.bind_some, Scale.clamp?]
    split
    · rename_i ordered
      exact iff_of_true rfl (.inr (number.mp ordered))
    · rename_i unordered
      refine iff_of_false (by simp) ?_
      rintro (failed | isNumber)
      · exact some failed
      · exact unordered (number.mpr isNumber)

end Score

end Plumbline
