import Mathlib.Data.List.Basic
import Plumbline.Proofs.Text.Case
import Plumbline.Proofs.Text.Infix
import Plumbline.Text.Slug

namespace Plumbline.Text

/-- A character of a cleaned name: a letter, a digit or an underscore. -/
def IsNameLetter (c : Char) : Prop := isAlphanumeric c = true ∨ c = '_'

instance : DecidablePred IsNameLetter := fun _ => inferInstanceAs (Decidable (_ ∨ _))

section Characters

variable {c d : Char}

theorem IsNameLetter.not_isBlank (named : IsNameLetter c) : isBlank c = false := by
  by_contra blank
  rcases named with letter | rfl
  · rw [not_isAlphanumeric_of_isBlank (Bool.of_not_eq_false blank)] at letter
    contradiction
  · exact blank (by decide)

theorem IsSettled.slugChar_eq (settled : IsSettled c) : slugChar c = [c] := by
  rw [slugChar, settled.letter, Bool.true_or, if_pos rfl, settled.stays]

/-- What stands for a character in a name stands for itself, except for the dot that a capital i leaves above its lower
case. -/
theorem of_mem_slugChar (member : d ∈ slugChar c) :
    IsNameLetter d ∧ slugChar d = [d] ∨ c = '\u0130' ∧ d = '\u0307' := by
  have underscore : slugChar '_' = ['_'] := by decide
  unfold slugChar at member
  split at member
  · rename_i named
    by_cases dotted : c = '\u0130'
    · have lowered : lowerChar '\u0130' = ['i', '\u0307'] := by decide
      rw [dotted, lowered, List.mem_cons, List.mem_singleton] at member
      rcases member with rfl | rfl
      · exact .inl ⟨.inl (by decide), by decide⟩
      · exact .inr ⟨dotted, rfl⟩
    · by_cases letter : isAlphanumeric c = true
      · obtain ⟨e, lowered, settled⟩ := exists_isSettled letter dotted
        rw [lowered, List.mem_singleton] at member
        subst member
        exact .inl ⟨.inl settled.letter, settled.slugChar_eq⟩
      · have same : c = '_' := by simpa [letter] using named
        have lowered : lowerChar '_' = ['_'] := by decide
        rw [same, lowered, List.mem_singleton] at member
        exact .inl ⟨.inr member, by rw [member, underscore]⟩
  · rw [List.mem_singleton] at member
    exact .inl ⟨.inr member, by rw [member, underscore]⟩

end Characters

section Slug

variable {s : List Char} {c : Char}

theorem exists_of_mem_slug (member : c ∈ slug s) : ∃ d ∈ s, c ∈ slugChar d := by
  obtain ⟨lead, tail, whole, _⟩ := exists_append_stripWhile (· == '_') ((trim s).flatMap slugChar)
  have cleaned : c ∈ (trim s).flatMap slugChar := by
    rw [whole]
    exact List.mem_append_right lead (List.mem_append_left tail member)
  obtain ⟨d, inside, from'⟩ := List.mem_flatMap.mp cleaned
  have within : trim s <:+: s := trim_infix s
  exact ⟨d, within.subset inside, from'⟩

theorem dot_mem_slug_iff : '\u0307' ∈ slug s ↔ '\u0130' ∈ s := by
  constructor
  · intro member
    obtain ⟨d, inside, dots⟩ := exists_of_mem_slug member
    rcases of_mem_slugChar dots with ⟨_, stays⟩ | ⟨rfl, _⟩
    · exact absurd stays (by decide +kernel)
    · exact inside
  · intro member
    have solid : isBlank '\u0130' = false := by decide
    have kept : '\u0130' ∈ trim s := (mem_stripWhile_iff solid).mpr member
    have dotted : '\u0307' ∈ slugChar '\u0130' := by decide +kernel
    have cleaned : '\u0307' ∈ (trim s).flatMap slugChar := List.mem_flatMap.mpr ⟨_, kept, dotted⟩
    have apart : ('\u0307' == '_') = false := by decide
    exact (mem_stripWhile_iff (p := (· == '_')) apart).mpr cleaned

theorem dotted_not_mem_slug : '\u0130' ∉ slug s := by
  intro member
  obtain ⟨d, _, from'⟩ := exists_of_mem_slug member
  rcases of_mem_slugChar from' with ⟨_, stays⟩ | ⟨_, same⟩
  · exact absurd stays (by decide)
  · exact absurd same (by decide)

/-- A text of characters that stand for themselves is a name already when no underscore is at its ends. -/
theorem slug_eq_self (stays : ∀ c ∈ s, IsNameLetter c ∧ slugChar c = [c]) (first : s.head? ≠ some '_')
    (last : s.getLast? ≠ some '_') : slug s = s := by
  have solid : trim s = s := trim_eq_self fun c member => (stays c member).1.not_isBlank
  have same : s.flatMap slugChar = s := by
    calc s.flatMap slugChar = s.flatMap fun c => [c] := List.flatMap_congr fun c member => (stays c member).2
      _ = s := List.flatMap_singleton' s
  have bare : stripWhile (· == '_') ([] ++ (s ++ [])) = s := by
    refine stripWhile_append (fun c member => absurd member List.not_mem_nil)
      (fun c member => absurd member List.not_mem_nil) (fun c head => ?_) fun c tail => ?_
    · exact beq_eq_false_iff_ne.mpr fun underscore => first (underscore ▸ head)
    · exact beq_eq_false_iff_ne.mpr fun underscore => last (underscore ▸ tail)
  rw [List.nil_append, List.append_nil] at bare
  rw [slug, solid, same, bare]

theorem head?_slug (s : List Char) : (slug s).head? ≠ some '_' := fun first =>
  absurd (not_of_head?_stripWhile first) (by decide)

theorem getLast?_slug (s : List Char) : (slug s).getLast? ≠ some '_' := fun last =>
  absurd (not_of_getLast?_stripWhile last) (by decide)

/-- A cleaned name: letters, digits and underscores, none of these at its ends, that cleaning leaves as they are. -/
structure IsClean (s : List Char) : Prop where
  named : ∀ c ∈ s, IsNameLetter c
  first : s.head? ≠ some '_'
  last : s.getLast? ≠ some '_'
  stays : slug s = s

theorem isClean_slug (undotted : '\u0130' ∉ s) : IsClean (slug s) := by
  have settled : ∀ c ∈ slug s, IsNameLetter c ∧ slugChar c = [c] := by
    intro c member
    obtain ⟨d, inside, from'⟩ := exists_of_mem_slug member
    rcases of_mem_slugChar from' with settled | ⟨rfl, _⟩
    · exact settled
    · exact absurd inside undotted
  exact ⟨fun c member => (settled c member).1, head?_slug s, getLast?_slug s,
    slug_eq_self settled (head?_slug s) (getLast?_slug s)⟩

/-- No cleaned text has an underscore at its ends. It is made of letters, digits and underscores, and stays as it is when it is
cleaned again, just when there is no capital i with a dot in the text. Cleaned twice, every text is clean. -/
theorem isClean_slug_iff (s : List Char) :
    (slug s).head? ≠ some '_' ∧ (slug s).getLast? ≠ some '_' ∧
      ((∀ c ∈ slug s, IsNameLetter c) ↔ '\u0130' ∉ s) ∧ (slug (slug s) = slug s ↔ '\u0130' ∉ s) ∧
      (IsClean (slug s) ↔ '\u0130' ∉ s) ∧ IsClean (slug (slug s)) := by
  have odd : ¬ IsNameLetter '\u0307' := by decide +kernel
  have dotted (plain : ∀ c ∈ slug s, IsNameLetter c) : '\u0130' ∉ s := fun inside =>
    odd (plain '\u0307' (dot_mem_slug_iff.mpr inside))
  have again : IsClean (slug (slug s)) := isClean_slug dotted_not_mem_slug
  refine ⟨head?_slug s, getLast?_slug s, ⟨dotted, fun undotted => (isClean_slug undotted).named⟩,
    ⟨fun same => ?_, fun undotted => (isClean_slug undotted).stays⟩,
    ⟨fun clean => dotted clean.named, isClean_slug⟩, again⟩
  rw [same] at again
  exact dotted again.named

/-- The dot that is left of a capital i is neither letter nor digit, and goes when the text is cleaned again. -/
theorem dotted_i_not_clean :
    slug ['\u0130'] = ['i', '\u0307'] ∧ ¬ IsNameLetter '\u0307' ∧ slug (slug ['\u0130']) ≠ slug ['\u0130'] := by
  decide +kernel

end Slug

end Plumbline.Text
