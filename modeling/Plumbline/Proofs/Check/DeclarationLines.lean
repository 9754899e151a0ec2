import Mathlib.Data.List.Forall2
import Plumbline.Check.Dependencies
import Plumbline.Proofs.Text.Case
import Plumbline.Proofs.Text.Infix
import Plumbline.Proofs.Text.Lines

namespace Plumbline

namespace Check

open Text

/-- A character of a package name in its normal form. -/
def normalLetters (c : Char) : List Char := (lowerChar c).map fun c => if c = '_' || c = '.' then '-' else c

/-- Whether two characters are the same but for case and for the choice among dash, underscore and dot. -/
def SameLetter (a b : Char) : Prop := lowerChar a = lowerChar b ∨ a ∈ ['-', '_', '.'] ∧ b ∈ ['-', '_', '.']

section Letters

variable {a b c : Char}

theorem toNat_lt_of_isNameChar (named : isNameChar c = true) : c.toNat < 128 := by
  rcases (Bool.or_eq_true _ _).mp named with letter | mark
  · have bounds := isAlphanum_iff.mp letter
    omega
  · have ascii : "-_.@/".toList.all (·.toNat < 128) = true := by decide
    exact of_decide_eq_true (List.all_eq_true.mp ascii c (List.contains_iff_mem.mp mark))

theorem of_isNameChar_of_forall {p : Char → Prop} (each : ∀ n < 128, isNameChar (Char.ofNat n) = true → p (Char.ofNat n))
    (named : isNameChar c = true) : p c :=
  ascii_forall (p := fun c => isNameChar c = true → p c) each (toNat_lt_of_isNameChar named) named

/-- What stands around a name in a line is not made of characters of names. -/
theorem of_isNameChar (named : isNameChar c = true) :
    isBlank c = false ∧ isQuote c = false ∧ c ≠ '#' ∧ c ≠ '[' :=
  of_isNameChar_of_forall (p := fun c => isBlank c = false ∧ isQuote c = false ∧ c ≠ '#' ∧ c ≠ '[') (by decide +kernel)
    named

theorem lowerChar_of_isNameChar (named : isNameChar c = true) :
    lowerChar c = [c.toLower] ∧ isNameChar c.toLower = true :=
  of_isNameChar_of_forall (p := fun c => lowerChar c = [c.toLower] ∧ isNameChar c.toLower = true) (by decide +kernel) named

/-- What is the same as a character of a name has its normal form, and is no white space and no letter that reads its
neighbours. -/
theorem SameLetter.normal (same : SameLetter a b) (named : isNameChar a = true) :
    isBlank b = false ∧ b ≠ '\u03a3' ∧ normalLetters a = normalLetters b := by
  rcases same with lowered | ⟨mark, mark'⟩
  · obtain ⟨low, named⟩ := lowerChar_of_isNameChar named
    rw [low] at lowered
    refine ⟨?_, ?_, by rw [normalLetters, normalLetters, low, lowered]⟩
    · by_contra blank
      have itself := lowerChar_of_isBlank (Bool.of_not_eq_false blank)
      rw [itself, List.singleton_inj] at lowered
      exact blank (lowered ▸ (of_isNameChar named).1)
    · rintro rfl
      have sigma : lowerChar '\u03a3' = ['\u03c3'] := by decide +kernel
      rw [sigma, List.singleton_inj] at lowered
      exact absurd (lowered ▸ named) (by decide)
  · have marks : ∀ c ∈ ['-', '_', '.'], isBlank c = false ∧ c ≠ '\u03a3' ∧ normalLetters c = ['-'] := by
      rw [List.forall_mem_cons, List.forall_mem_cons, List.forall_mem_singleton]
      decide +kernel
    obtain ⟨solid, plain, dash⟩ := marks b mark'
    exact ⟨solid, plain, (marks a mark).2.2.trans dash.symm⟩

end Letters

theorem normalizeName_eq {name : List Char} (solid : ∀ c ∈ name, isBlank c = false) (plain : ∀ c ∈ name, c ≠ '\u03a3') :
    normalizeName name = name.flatMap normalLetters := by
  rw [normalizeName, trim_eq_self solid, lower_eq_flatMap plain, List.map_flatMap]
  rfl

/-- Names that differ in case and in dashes, underscores and dots only have one normal form. -/
theorem normalizeName_eq_of_sameLetters {name other : List Char} (named : ∀ c ∈ name, isNameChar c = true)
    (same : List.Forall₂ SameLetter name other) : normalizeName name = normalizeName other := by
  have each : (∀ c ∈ other, isBlank c = false) ∧ (∀ c ∈ other, c ≠ '\u03a3') ∧
      name.flatMap normalLetters = other.flatMap normalLetters := by
    induction same with
    | nil => exact ⟨by simp, by simp, rfl⟩
    | cons first _ ih =>
      obtain ⟨here, named⟩ := List.forall_mem_cons.mp named
      obtain ⟨solid, plain, alike⟩ := first.normal here
      obtain ⟨solids, plains, rest⟩ := ih named
      exact ⟨List.forall_mem_cons.mpr ⟨solid, solids⟩, List.forall_mem_cons.mpr ⟨plain, plains⟩, by
        rw [List.flatMap_cons, List.flatMap_cons, alike, rest]⟩
  have plain : ∀ c ∈ name, c ≠ '\u03a3' := by
    rintro _ member rfl
    exact absurd (named _ member) (by decide)
  rw [normalizeName_eq (fun c member => (of_isNameChar (named c member)).1) plain, each.2.2, normalizeName_eq each.1 each.2.1]

theorem afterExtras_eq_self {s : List Char} (first : s.head? ≠ some '[') : afterExtras s = s := by
  rw [afterExtras]
  rintro rest rfl
  exact first rfl

/-- A line of a manifest that declares a package: white space, quotation marks, the name of the package, extras in
brackets or none, and anything that does not go on with the name. -/
structure DeclarationLine where
  gap : List Char
  quotes : List Char
  name : List Char
  extras : Option (List Char)
  rest : List Char
  blank : ∀ c ∈ gap, isBlank c = true
  quoted : ∀ c ∈ quotes, isQuote c = true
  nonempty : name ≠ []
  named : ∀ c ∈ name, isNameChar c = true
  unclosed : ∀ inner ∈ extras, ']' ∉ inner
  apart : ∀ c ∈ rest.head?, isNameChar c = false ∧ c ≠ '['

namespace DeclarationLine

variable (line : DeclarationLine)

/-- The extras in their brackets. -/
def bracketed : List Char := (line.extras.map fun inner => '[' :: (inner ++ [']'])).getD []

def chars : List Char := line.gap ++ (line.quotes ++ (line.name ++ (line.bracketed ++ line.rest)))

variable {line} in
theorem bracketed_of_none (extras : line.extras = none) : line.bracketed = [] := by
  rw [bracketed, extras]
  rfl

variable {line} in
theorem bracketed_of_some {inner : List Char} (extras : line.extras = some inner) :
    line.bracketed = '[' :: (inner ++ [']']) := by
  rw [bracketed, extras]
  rfl

theorem apart_trimEnd : ∀ c ∈ (trimEnd line.rest).head?, isNameChar c = false ∧ c ≠ '[' := by
  intro c first
  obtain ⟨behind, begins⟩ := List.head?_eq_some_iff.mp first
  obtain ⟨more, whole⟩ : c :: behind <+: line.rest := begins ▸ prefix_dropRightWhile isBlank line.rest
  exact line.apart c (whole ▸ rfl)

theorem head?_name_append (s : List Char) : ∃ c, isNameChar c = true ∧ (line.name ++ s).head? = some c := by
  obtain ⟨c, letters, name⟩ := List.exists_cons_of_ne_nil line.nonempty
  exact ⟨c, line.named c (name ▸ List.mem_cons_self), by rw [name]; rfl⟩

theorem not_isBlank_head (s : List Char) : ∀ c ∈ (line.quotes ++ (line.name ++ s)).head?, isBlank c = false := by
  intro c first
  cases quotes : line.quotes with
  | nil =>
    obtain ⟨d, named, begins⟩ := line.head?_name_append s
    rw [quotes, List.nil_append, begins] at first
    exact Option.some.inj first ▸ (of_isNameChar named).1
  | cons quote more =>
    rw [quotes] at first
    have isQuote := line.quoted quote (quotes ▸ List.mem_cons_self)
    obtain rfl | rfl : quote = '\x27' ∨ quote = '\x22' := by simpa [Text.isQuote] using isQuote
    · exact Option.some.inj first ▸ by decide
    · exact Option.some.inj first ▸ by decide

theorem not_isBlank_last : ∀ c ∈ (line.quotes ++ (line.name ++ line.bracketed)).getLast?, isBlank c = false := by
  intro c last
  cases extras : line.extras with
  | none =>
    rw [bracketed_of_none extras, List.append_nil, List.getLast?_append_of_ne_nil _ line.nonempty] at last
    exact (of_isNameChar (line.named c (List.mem_of_getLast? last))).1
  | some inner =>
    rw [bracketed_of_some extras, ← List.append_assoc, ← List.cons_append, ← List.append_assoc, List.getLast?_concat] at last
    exact Option.some.inj last ▸ by decide

theorem trim_chars : trim line.chars = line.quotes ++ (line.name ++ (line.bracketed ++ trimEnd line.rest)) := by
  have whole (s : List Char) : line.quotes ++ (line.name ++ (line.bracketed ++ s)) =
      (line.quotes ++ (line.name ++ line.bracketed)) ++ s := by simp only [List.append_assoc]
  rw [trim, stripWhile, chars, List.dropWhile_append_of_pos line.blank, dropWhile_eq_self (line.not_isBlank_head _), whole,
    dropRightWhile_append_of_getLast? line.not_isBlank_last, ← whole, trimEnd]

theorem dropWhile_trim_chars : (trim line.chars).dropWhile (fun c => c == '\x22' || c == '\x27') =
    line.name ++ (line.bracketed ++ trimEnd line.rest) := by
  have quote (c : Char) : (c == '\x22' || c == '\x27') = isQuote c := Bool.or_comm _ _
  simp only [quote]
  rw [line.trim_chars, List.dropWhile_append_of_pos line.quoted, dropWhile_eq_self]
  intro c first
  obtain ⟨d, named, begins⟩ := line.head?_name_append (line.bracketed ++ trimEnd line.rest)
  rw [begins] at first
  exact Option.some.inj first ▸ (of_isNameChar named).2.1

theorem not_isNameChar_head : ∀ c ∈ (line.bracketed ++ trimEnd line.rest).head?, isNameChar c = false := by
  intro c first
  cases extras : line.extras with
  | none =>
    rw [bracketed_of_none extras] at first
    exact (line.apart_trimEnd c first).1
  | some inner =>
    rw [bracketed_of_some extras] at first
    exact Option.some.inj first ▸ by decide

theorem afterExtras_bracketed : afterExtras (line.bracketed ++ trimEnd line.rest) = trimEnd line.rest := by
  cases extras : line.extras with
  | none =>
    rw [bracketed_of_none extras, List.nil_append]
    exact afterExtras_eq_self fun first => (line.apart_trimEnd '[' first).2 rfl
  | some inner =>
    have cut : cut? [']'] (inner ++ ([']'] ++ trimEnd line.rest)) = some (inner, trimEnd line.rest) :=
      cut?_of_head_not_mem _ (line.unclosed inner extras)
    rw [bracketed_of_some extras, List.cons_append, afterExtras, List.append_assoc, cut]

/-- A line declares its package in normal form, and what it says about it stands behind the name and the extras. -/
theorem declaration?_chars : declaration? line.chars = some (normalizeName line.name, trimEnd line.rest) := by
  obtain ⟨c, named, begins⟩ := line.head?_name_append (line.bracketed ++ trimEnd line.rest)
  have plain : (decide ((line.name ++ (line.bracketed ++ trimEnd line.rest)).head? = some '#') ||
      decide ((line.name ++ (line.bracketed ++ trimEnd line.rest)).head? = some '[')) = false := by
    simp [begins, (of_isNameChar named).2.2]
  have read := some?_append line.nonempty line.named line.not_isNameChar_head
  rw [declaration?, line.dropWhile_trim_chars]
  simp only [plain, read, bind, Option.bind, line.afterExtras_bracketed]
  rfl

end DeclarationLine

end Check

end Plumbline
