import Plumbline.Proofs.Source.Calls

namespace Plumbline.Source

open Text

/-- The brackets of expressions, each with the one that closes it. -/
def bracketPairs : List (Char × Char) := [('(', ')'), ('[', ']'), ('\x7b', '\x7d')]

def isBracket (c : Char) : Bool := bracketPairs.any fun pair => c == pair.1 || c == pair.2

/-- A text in which every bracket is closed by one of its kind. -/
inductive Bracketed : List Char → Prop
  | nil : Bracketed []
  | plain {c s} : isBracket c = false → Bracketed s → Bracketed (c :: s)
  | group {opening closing inner s} : (opening, closing) ∈ bracketPairs → Bracketed inner → Bracketed s →
    Bracketed (opening :: (inner ++ closing :: s))

/-- Whether a character stands in a text outside all brackets. -/
def Outside (c : Char) (s : List Char) : Prop := ∃ before behind, s = before ++ c :: behind ∧ Bracketed before

theorem bracketPair_cases {opening closing : Char} (pair : (opening, closing) ∈ bracketPairs) :
    opening = '(' ∧ closing = ')' ∨ opening = '[' ∧ closing = ']' ∨ opening = '\x7b' ∧ closing = '\x7d' := by
  simpa [bracketPairs] using pair

theorem group_append (opening closing : Char) (inner s t : List Char) :
    opening :: (inner ++ closing :: s) ++ t = opening :: (inner ++ closing :: (s ++ t)) := by
  rw [List.cons_append, List.append_assoc, List.cons_append]

section Pieces

variable {s t : List Char}

theorem Bracketed.of_plain (plain : ∀ c ∈ s, isBracket c = false) : Bracketed s := by
  induction s with
  | nil => exact .nil
  | cons c s ih =>
    obtain ⟨here, later⟩ := List.forall_mem_cons.mp plain
    exact .plain here (ih later)

theorem Bracketed.append (first : Bracketed s) (second : Bracketed t) : Bracketed (s ++ t) := by
  induction first with
  | nil => exact second
  | plain unbracketed _ ih => exact .plain unbracketed ih
  | group pair inner _ _ ih =>
    rw [group_append]
    exact .group pair inner ih

theorem Bracketed.intercalate {sep : List Char} {texts : List (List Char)} (separates : Bracketed sep)
    (formed : ∀ s ∈ texts, Bracketed s) : Bracketed (sep.intercalate texts) := by
  induction texts with
  | nil => exact .nil
  | cons s rest ih =>
    obtain ⟨here, later⟩ := List.forall_mem_cons.mp formed
    cases rest with
    | nil => simpa using here
    | cons t rest =>
      rw [List.intercalate_cons_cons]
      exact (here.append separates).append (ih later)

end Pieces

section Closing

variable {depth : Nat} {s t : List Char}

theorem untilClosed_cons {c : Char} (further : c = ')' → 1 < depth) : untilClosed depth (c :: s) =
    (c :: (untilClosed (depthAfter depth c) s).1, (untilClosed (depthAfter depth c) s).2) := by
  rw [untilClosed, if_neg (by simpa using further)]
  rfl

theorem depthAfter_of_ne {c : Char} (opening : c ≠ '(') (closing : c ≠ ')') : depthAfter depth c = depth := by
  rw [depthAfter, if_neg opening, if_neg closing]

/-- Nothing that is open is closed within a text whose brackets match. -/
theorem untilClosed_append (formed : Bracketed s) (opened : 0 < depth) (t : List Char) :
    untilClosed depth (s ++ t) = (s ++ (untilClosed depth t).1, (untilClosed depth t).2) := by
  induction formed generalizing depth t with
  | nil => rfl
  | @plain c s unbracketed _ ih =>
    have opening : c ≠ '(' := by
      rintro rfl
      exact absurd unbracketed (by decide)
    have closing : c ≠ ')' := by
      rintro rfl
      exact absurd unbracketed (by decide)
    rw [List.cons_append, untilClosed_cons fun same => absurd same closing, depthAfter_of_ne opening closing,
      ih opened]
    rfl
  | @group opening closing inner s pair _ _ innerIh ih =>
    -- A closing parenthesis leads back to where its opening one stood, and the other kinds are not counted.
    have opens : opening ≠ ')' ∧ 0 < depthAfter depth opening := by
      rcases bracketPair_cases pair with ⟨rfl, _⟩ | ⟨rfl, _⟩ | ⟨rfl, _⟩
      · exact ⟨by decide, Nat.succ_pos depth⟩
      · exact ⟨by decide, opened⟩
      · exact ⟨by decide, opened⟩
    have closes : (closing = ')' → 1 < depthAfter depth opening) ∧
        depthAfter (depthAfter depth opening) closing = depth := by
      rcases bracketPair_cases pair with ⟨rfl, rfl⟩ | ⟨rfl, rfl⟩ | ⟨rfl, rfl⟩
      · exact ⟨fun _ => Nat.lt_add_of_pos_left opened, rfl⟩
      · exact ⟨nofun, rfl⟩
      · exact ⟨nofun, rfl⟩
    rw [group_append, untilClosed_cons fun same => absurd same opens.1, innerIh opens.2, untilClosed_cons closes.1,
      closes.2, ih opened, group_append]

/-- The arguments of a call reach up to its own parenthesis. -/
theorem untilClosed_of_bracketed (formed : Bracketed s) (t : List Char) :
    untilClosed 1 (s ++ ')' :: t) = (s, some (')' :: t)) := by
  rw [untilClosed_append formed Nat.one_pos]
  simp [untilClosed]

end Closing

section Commas

variable {s t : List Char}

theorem hasOuterComma_plain {c : Char} {depth : Int} (unbracketed : isBracket c = false) (s : List Char) :
    hasOuterComma depth (c :: s) = if c = ',' && depth = 0 then true else hasOuterComma depth s := by
  simp only [isBracket, bracketPairs, List.any_cons, List.any_nil, Bool.or_false, Bool.or_eq_false_iff,
    beq_eq_false_iff_ne] at unbracketed
  obtain ⟨⟨round, round'⟩, ⟨square, square'⟩, curly, curly'⟩ := unbracketed
  rw [hasOuterComma]
  simp [*]

theorem hasOuterComma_group {opening closing : Char} (pair : (opening, closing) ∈ bracketPairs) (depth : Int)
    (s : List Char) : hasOuterComma depth (opening :: s) = hasOuterComma (depth + 1) s ∧
      hasOuterComma (depth + 1) (closing :: s) = hasOuterComma depth s := by
  have back : depth + 1 - 1 = depth := Int.add_sub_cancel depth 1
  rcases bracketPair_cases pair with ⟨rfl, rfl⟩ | ⟨rfl, rfl⟩ | ⟨rfl, rfl⟩ <;> simp [hasOuterComma, back]

/-- Within brackets no comma counts. -/
theorem hasOuterComma_append_of_pos (formed : Bracketed s) {depth : Int} (within : 0 < depth) (t : List Char) :
    hasOuterComma depth (s ++ t) = hasOuterComma depth t := by
  induction formed generalizing depth t with
  | nil => rfl
  | plain unbracketed _ ih =>
    rw [List.cons_append, hasOuterComma_plain unbracketed, if_neg (by simp; omega), ih within]
  | group pair _ _ innerIh ih =>
    rw [group_append, (hasOuterComma_group pair depth _).1, innerIh (by omega), (hasOuterComma_group pair depth _).2,
      ih within]

theorem hasOuterComma_skip {opening closing : Char} {inner : List Char} (pair : (opening, closing) ∈ bracketPairs)
    (inside : Bracketed inner) (s : List Char) :
    hasOuterComma 0 (opening :: (inner ++ closing :: s)) = hasOuterComma 0 s := by
  rw [(hasOuterComma_group pair 0 _).1, hasOuterComma_append_of_pos inside (by decide),
    (hasOuterComma_group pair 0 _).2]

theorem hasOuterComma_append (formed : Bracketed s) (t : List Char) :
    hasOuterComma 0 (s ++ t) = (hasOuterComma 0 s || hasOuterComma 0 t) := by
  induction formed with
  | nil => rfl
  | plain unbracketed _ ih =>
    rw [List.cons_append, hasOuterComma_plain unbracketed, hasOuterComma_plain unbracketed, ih]
    split <;> rfl
  | group pair inside _ _ ih => rw [group_append, hasOuterComma_skip pair inside, hasOuterComma_skip pair inside, ih]

theorem hasOuterComma_iff (formed : Bracketed s) : hasOuterComma 0 s = true ↔ Outside ',' s := by
  constructor
  · intro found
    induction formed with
    | nil => exact absurd found (by decide)
    | @plain c s unbracketed _ ih =>
      rw [hasOuterComma_plain unbracketed] at found
      split at found
      · rename_i here
        obtain rfl : c = ',' := by simpa using here
        exact ⟨[], s, rfl, .nil⟩
      · obtain ⟨before, behind, rfl, lead⟩ := ih found
        exact ⟨c :: before, behind, rfl, .plain unbracketed lead⟩
    | @group opening closing inner s pair inside _ _ ih =>
      rw [hasOuterComma_skip pair inside] at found
      obtain ⟨before, behind, rfl, lead⟩ := ih found
      exact ⟨opening :: (inner ++ closing :: before), behind, (group_append ..).symm, .group pair inside lead⟩
  · rintro ⟨before, behind, rfl, lead⟩
    rw [hasOuterComma_append lead, hasOuterComma_plain (by decide)]
    simp

/-- Commas between texts stand outside their brackets. -/
theorem hasOuterComma_intercalate {texts : List (List Char)} (formed : ∀ s ∈ texts, Bracketed s) :
    hasOuterComma 0 ([','].intercalate texts) = (decide (1 < texts.length) || texts.any (hasOuterComma 0)) := by
  match texts with
  | [] => rfl
  | [s] => simp
  | s :: t :: rest =>
    obtain ⟨here, _⟩ := List.forall_mem_cons.mp formed
    rw [List.intercalate_cons_cons, List.append_assoc, hasOuterComma_append here, List.singleton_append,
      hasOuterComma_plain (by decide)]
    simp

end Commas

end Plumbline.Source
