import Plumbline.Proofs.Text.Lines

namespace Plumbline.Text

theorem startsWith_iff {lead s : List Char} : startsWith lead s = true ↔ lead <+: s := by
  rw [startsWith, Option.isSome_iff_exists]
  simp only [after?_eq_some_iff]
  exact ⟨fun ⟨rest, whole⟩ => ⟨rest, whole.symm⟩, fun ⟨rest, whole⟩ => ⟨rest, whole.symm⟩⟩

theorem endsWith_iff {tail s : List Char} : endsWith tail s = true ↔ tail <:+ s := by
  rw [endsWith, startsWith_iff, List.reverse_prefix]

theorem contains_iff {needle s : List Char} : contains needle s = true ↔ needle <:+: s := by
  induction s with
  | nil => rw [contains, List.isEmpty_iff, List.infix_nil]
  | cons c s ih => rw [contains, Bool.or_eq_true, startsWith_iff, ih, List.infix_cons_iff]

section Apart

variable {needle s : List Char}

/-- What is looked for does not begin before a text that holds all of its characters. -/
theorem infix_append_iff_of_apart (nonempty : needle ≠ []) {lead : List Char} (apart : ∀ c ∈ lead, c ∉ needle) :
    needle <:+: lead ++ s ↔ needle <:+: s := by
  induction lead with
  | nil => rfl
  | cons c lead ih =>
    obtain ⟨here, apart⟩ := List.forall_mem_cons.mp apart
    have notHere : ¬ needle <+: c :: (lead ++ s) := by
      obtain ⟨d, needle, rfl⟩ := List.exists_cons_of_ne_nil nonempty
      exact fun begins => here ((List.cons_prefix_cons.mp begins).1 ▸ List.mem_cons_self)
    rw [List.cons_append, List.infix_cons_iff, ih apart, or_iff_right notHere]

theorem infix_concat_iff_of_not_mem (nonempty : needle ≠ []) {c : Char} (apart : c ∉ needle) :
    needle <:+: s ++ [c] ↔ needle <:+: s := by
  rw [← List.reverse_infix, List.reverse_append, infix_append_iff_of_apart (by simpa using nonempty) (by simpa using apart),
    List.reverse_infix]

end Apart

section Split

variable {isSeparator : Char → Bool} {s piece : List Char}

theorem prefix_of_split_eq_cons {pieces : List (List Char)} (halves : split isSeparator s = piece :: pieces) :
    piece <+: s := by
  induction s generalizing piece pieces with
  | nil =>
    cases halves
    exact List.prefix_rfl
  | cons c s ih =>
    rw [split] at halves
    split at halves
    · cases halves
      exact List.nil_prefix
    · split at halves
      · rename_i none
        exact absurd none (split_ne_nil s)
      · rename_i first rest found
        cases halves
        exact (List.prefix_cons_inj c).mpr (ih found)

theorem infix_of_mem_split (member : piece ∈ split isSeparator s) : piece <:+: s := by
  induction s generalizing piece with
  | nil => exact List.mem_singleton.mp member ▸ List.infix_rfl
  | cons c s ih =>
    cases halves : split isSeparator (c :: s) with
    | nil => exact absurd halves (split_ne_nil (c :: s))
    | cons first rest =>
      rw [halves] at member
      rcases List.mem_cons.mp member with rfl | later
      · exact (prefix_of_split_eq_cons halves).isInfix
      · -- the pieces behind the first are pieces of what follows the first character
        have behind : piece ∈ split isSeparator s := by
          rw [split] at halves
          split at halves
          · cases halves
            exact later
          · split at halves
            · cases halves
              exact absurd later List.not_mem_nil
            · rename_i found
              cases halves
              exact found ▸ List.mem_cons_of_mem _ later
        exact List.infix_cons (ih behind)

end Split

theorem trim_infix (s : List Char) : trim s <:+: s :=
  (prefix_dropRightWhile _ _).isInfix.trans (List.dropWhile_suffix isBlank).isInfix

section Cut

variable {needle s before rest : List Char}

theorem after?_eq_none_iff : after? needle s = none ↔ ¬ needle <+: s := by
  rw [← startsWith_iff, startsWith, Bool.not_eq_true, Option.isSome_eq_false_iff, Option.isNone_iff_eq_none]

/-- A text is cut where the needle first begins. -/
theorem cut?_eq_some_iff : cut? needle s = some (before, rest) ↔
    s = before ++ (needle ++ rest) ∧ ∀ i < before.length, ¬ needle <+: s.drop i := by
  induction s generalizing before with
  | nil =>
    cases needle with
    | nil =>
      simp only [cut?, List.isEmpty_nil, if_true, Option.some.injEq, Prod.mk.injEq, List.nil_append,
        List.nil_eq_append_iff]
      constructor
      · rintro ⟨rfl, rfl⟩
        exact ⟨⟨rfl, rfl⟩, fun _ past => absurd past (Nat.not_lt_zero _)⟩
      · rintro ⟨⟨rfl, rfl⟩, _⟩
        exact ⟨rfl, rfl⟩
    | cons c needle => simp [cut?]
  | cons c s ih =>
    rw [cut?]
    cases begins : after? needle (c :: s) with
    | some behind =>
      have here := after?_eq_some_iff.mp begins
      constructor
      · intro same
        cases same
        exact ⟨here, fun _ past => absurd past (Nat.not_lt_zero _)⟩
      · rintro ⟨split, first⟩
        obtain rfl : before = [] := by
          by_contra later
          exact first 0 (List.length_pos_iff.mpr later) ⟨behind, here.symm⟩
        rw [here, List.nil_append, List.append_cancel_left_eq] at split
        rw [split]
    | none =>
      have notHere := after?_eq_none_iff.mp begins
      constructor
      · intro cut
        obtain ⟨⟨before, behind⟩, later, same⟩ := Option.map_eq_some_iff.mp cut
        cases same
        obtain ⟨split, first⟩ := ih.mp later
        refine ⟨by rw [split, List.cons_append], fun i inside => ?_⟩
        cases i with
        | zero => exact notHere
        | succ i => exact first i (Nat.lt_of_succ_lt_succ inside)
      · rintro ⟨split, first⟩
        cases before with
        | nil => exact absurd ⟨rest, split.symm⟩ notHere
        | cons d before =>
          obtain ⟨rfl, behind⟩ := List.cons.inj split
          have later : cut? needle s = some (before, rest) :=
            ih.mpr ⟨behind, fun i inside => first (i + 1) (Nat.succ_lt_succ inside)⟩
          exact congrArg (Option.map _) later

theorem cut?_eq_none_iff : cut? needle s = none ↔ ¬ needle <:+: s := by
  induction s with
  | nil => simp [cut?]
  | cons c s ih =>
    rw [cut?, List.infix_cons_iff, not_or, ← after?_eq_none_iff, ← ih]
    cases after? needle (c :: s) <;> simp

/-- Where a needle begins, its characters stand one behind the other. -/
theorem getElem?_of_prefix_drop {i k : Nat} (begins : needle <+: s.drop i) (within : k < needle.length) :
    s[i + k]? = needle[k]? := by
  rw [← List.getElem?_drop, List.prefix_iff_getElem?.mp begins k within, List.getElem?_eq_getElem within]

/-- A needle does not run across a character that it does not hold. -/
theorem le_or_lt_of_prefix_drop {c : Char} {i : Nat} (begins : needle <+: (before ++ c :: rest).drop i)
    (apart : c ∉ needle) : i + needle.length ≤ before.length ∨ before.length < i := by
  by_contra across
  rw [not_or, Nat.not_le, Nat.not_lt] at across
  have crossed := getElem?_of_prefix_drop begins (k := before.length - i) (by omega)
  rw [Nat.add_sub_cancel' across.2, List.getElem?_append_right (Nat.le_refl _), Nat.sub_self] at crossed
  exact apart (List.mem_of_getElem? crossed.symm)

/-- What begins with a character that it does not hold again cannot begin within itself. -/
theorem cut?_of_not_infix {c : Char} (rest : List Char) (once : c ∉ needle) (absent : ¬ c :: needle <:+: before) :
    cut? (c :: needle) (before ++ (c :: needle ++ rest)) = some (before, rest) := by
  refine cut?_eq_some_iff.mpr ⟨rfl, fun i inside begins => ?_⟩
  by_cases early : i + (c :: needle).length ≤ before.length
  · rw [List.drop_append_of_le_length (Nat.le_of_lt inside)] at begins
    have within : c :: needle <+: before.drop i :=
      List.prefix_of_prefix_length_le begins (List.prefix_append _ _) (by rw [List.length_drop]; omega)
    exact absent (within.isInfix.trans (List.drop_suffix i before).isInfix)
  · obtain ⟨k, place⟩ : ∃ k, before.length = i + (k + 1) := ⟨before.length - i - 1, by omega⟩
    have again := getElem?_of_prefix_drop begins (k := k + 1) (by omega)
    rw [← place, List.getElem?_append_right (Nat.le_refl _), Nat.sub_self] at again
    exact once (List.mem_of_getElem? again.symm)

end Cut

end Plumbline.Text
