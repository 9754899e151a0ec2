import Mathlib.Tactic.ByContra
import Plumbline.Text.Class

namespace Plumbline.Text

/-- Whether no number lies in a range of both sets. -/
def Ranges.disjoint (these those : Ranges) : Bool :=
  these.all fun r => those.all fun q => decide (r.2 < q.1) || decide (q.2 < r.1)

theorem Ranges.contains_iff {ranges : Ranges} {c : Char} :
    ranges.contains c ↔ ∃ r ∈ ranges, r.1 ≤ c.toNat ∧ c.toNat ≤ r.2 := by
  simp only [Ranges.contains, List.any_eq_true, Bool.and_eq_true, decide_eq_true_eq]

theorem Ranges.not_contains_of_disjoint {these those : Ranges} {c : Char}
    (apart : these.disjoint those = true) (member : these.contains c) : those.contains c = false := by
  by_contra other
  obtain ⟨r, inThese, lower, upper⟩ := Ranges.contains_iff.mp member
  obtain ⟨q, inThose, above, below⟩ := Ranges.contains_iff.mp (Bool.of_not_eq_false other)
  have pair := List.all_eq_true.mp (List.all_eq_true.mp apart r inThese) q inThose
  simp only [Bool.or_eq_true, decide_eq_true_eq] at pair
  omega

theorem isAlphanum_iff {c : Char} :
    c.isAlphanum ↔ 65 ≤ c.toNat ∧ c.toNat ≤ 90 ∨ 97 ≤ c.toNat ∧ c.toNat ≤ 122 ∨ 48 ≤ c.toNat ∧ c.toNat ≤ 57 := by
  have whole : c.isAlphanum = (decide (65 ≤ c.val ∧ c.val ≤ 90) ||
      decide (97 ≤ c.val) && decide (c.val ≤ 122) || decide (48 ≤ c.val) && decide (c.val ≤ 57)) := rfl
  rw [whole]
  simp only [Bool.or_eq_true, Bool.and_eq_true, decide_eq_true_eq, UInt32.le_iff_toNat_le]
  change ((65 ≤ c.toNat ∧ c.toNat ≤ 90) ∨ (97 ≤ c.toNat ∧ c.toNat ≤ 122)) ∨ (48 ≤ c.toNat ∧ c.toNat ≤ 57) ↔ _
  omega

/-- The blank characters of ASCII lie outside its letters and digits. -/
theorem not_isAlphanum_of_isBlank {c : Char} (blank : isBlank c) : c.isAlphanum = false := by
  by_contra other
  have letter := isAlphanum_iff.mp (Bool.of_not_eq_false other)
  obtain ⟨r, member, lower, upper⟩ := Ranges.contains_iff.mp blank
  simp only [blankRanges, List.mem_cons, List.not_mem_nil, or_false] at member
  rcases member with rfl | rfl | rfl | rfl | rfl | rfl | rfl | rfl | rfl | rfl <;> omega

theorem not_isAlphanumeric_of_isBlank {c : Char} (blank : isBlank c) : isAlphanumeric c = false := by
  have letters : alphabeticRanges.contains c = false :=
    Ranges.not_contains_of_disjoint (by decide +kernel) blank
  have numbers : numericRanges.contains c = false :=
    Ranges.not_contains_of_disjoint (by decide +kernel) blank
  simp only [isAlphanumeric, not_isAlphanum_of_isBlank blank, letters, numbers, Bool.or_self, ite_self]

theorem not_isDecimal_of_isBlank {c : Char} (blank : isBlank c) : isDecimal c = false := by
  have decimals : decimalRanges.contains c = false := Ranges.not_contains_of_disjoint (by decide +kernel) blank
  have digit : c.isDigit = false := (Bool.or_eq_false_iff.mp (not_isAlphanum_of_isBlank blank)).2
  simp only [isDecimal, digit, decimals, ite_self]

theorem not_isWord_of_isBlank {c : Char} (blank : isBlank c) : isWord c = false := by
  have words : wordRanges.contains c = false := Ranges.not_contains_of_disjoint (by decide +kernel) blank
  have underscore : c ≠ '_' := by
    rintro rfl
    exact absurd blank (by decide)
  simp only [isWord, not_isAlphanum_of_isBlank blank, words, beq_eq_false_iff_ne.mpr underscore, Bool.or_self,
    ite_self]

end Plumbline.Text
