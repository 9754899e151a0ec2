import Plumbline.Proofs.Text.Class
import Plumbline.Proofs.Text.Search
import Plumbline.Version

namespace Plumbline

namespace Version

open Text

def IsNumber (isDigit : Char → Bool) (s : List Char) : Prop := s ≠ [] ∧ ∀ c ∈ s, isDigit c = true

/-- A mark as it is written: nothing at all, or a sign and letters, digits, dots and dashes of ASCII, one at least. -/
inductive IsMark (sign : Char) : List Char → Prop
  | absent : IsMark sign []
  | signed {s : List Char} (nonempty : s ≠ []) (plain : ∀ c ∈ s, c.isAlphanum = true ∨ c = '.' ∨ c = '-') :
    IsMark sign (sign :: s)

/-- The grammar of versions, for whatever counts as a digit: three numbers with dots between, then a pre-release mark, then a
build mark. -/
inductive IsVersion (isDigit : Char → Bool) : List Char → Prop
  | intro {major minor patch prerelease build : List Char} (major_isNumber : IsNumber isDigit major)
    (minor_isNumber : IsNumber isDigit minor) (patch_isNumber : IsNumber isDigit patch)
    (prerelease_isMark : IsMark '-' prerelease) (build_isMark : IsMark '+' build) :
    IsVersion isDigit (major ++ '.' :: (minor ++ '.' :: (patch ++ (prerelease ++ build))))

section Readers

variable {s rest : List Char} {sign : Char}

theorem readNumber_dotted_eq_some_iff :
    readNumber true s = some rest ↔ ∃ number, IsNumber isDecimal number ∧ s = number ++ '.' :: rest := by
  simp only [readNumber, Option.bind_eq_bind, Option.bind_eq_some_iff, if_true, Prod.exists, some?_eq_some_iff,
    after?_eq_some_iff]
  constructor
  · rintro ⟨number, _, ⟨rfl, nonempty, digits, _⟩, rfl⟩
    exact ⟨number, ⟨nonempty, digits⟩, rfl⟩
  · rintro ⟨number, ⟨nonempty, digits⟩, rfl⟩
    refine ⟨number, '.' :: rest, ⟨rfl, nonempty, digits, fun c first => ?_⟩, rfl⟩
    obtain rfl := Option.some.inj first
    decide

theorem readNumber_last_eq_some_iff : readNumber false s = some rest ↔
    ∃ number, IsNumber isDecimal number ∧ s = number ++ rest ∧ ∀ c ∈ rest.head?, isDecimal c = false := by
  simp only [readNumber, Option.bind_eq_bind, Option.bind_eq_some_iff, Bool.false_eq_true, if_false, Prod.exists,
    some?_eq_some_iff, Option.some.injEq]
  constructor
  · rintro ⟨number, _, ⟨rfl, nonempty, digits, stops⟩, rfl⟩
    exact ⟨number, ⟨nonempty, digits⟩, rfl, stops⟩
  · rintro ⟨number, ⟨nonempty, digits⟩, rfl, stops⟩
    exact ⟨number, rest, ⟨rfl, nonempty, digits, stops⟩, rfl⟩

theorem isMarkChar_iff {c : Char} : isMarkChar c = true ↔ c.isAlphanum = true ∨ c = '.' ∨ c = '-' := by
  simp [isMarkChar, or_assoc]

theorem exists_isMark_of_readMark (reads : readMark sign s = some rest) : ∃ mark, IsMark sign mark ∧ s = mark ++ rest := by
  rw [readMark] at reads
  split at reads
  · obtain rfl := Option.some.inj reads
    exact ⟨[], .absent, rfl⟩
  · rename_i behind begins
    obtain ⟨⟨body, rest⟩, marks, rfl⟩ := Option.map_eq_some_iff.mp reads
    obtain ⟨rfl, nonempty, plain, _⟩ := some?_eq_some_iff.mp marks
    have whole : s = sign :: (body ++ rest) := after?_eq_some_iff.mp begins
    exact ⟨sign :: body, .signed nonempty fun c member => isMarkChar_iff.mp (plain c member), whole⟩

/-- A mark is read as far as it goes when what follows could be neither the mark nor a part of it. -/
theorem readMark_append {mark : List Char} (form : IsMark sign mark) (unsigned : rest.head? ≠ some sign)
    (stops : ∀ c ∈ rest.head?, isMarkChar c = false) : readMark sign (mark ++ rest) = some rest := by
  cases form with
  | absent =>
    have begins : after? [sign] rest = none := by
      rw [Option.eq_none_iff_forall_ne_some]
      intro behind reads
      rw [after?_eq_some_iff.mp reads] at unsigned
      exact unsigned rfl
    rw [List.nil_append, readMark, begins]
  | @signed body nonempty plain =>
    have marks : some? isMarkChar (body ++ rest) = some (body, rest) :=
      some?_append nonempty (fun c member => isMarkChar_iff.mpr (plain c member)) stops
    rw [List.cons_append, readMark, after?_singleton]
    exact congrArg (Option.map Prod.snd) marks

end Readers

theorem IsMark.eq_of_mem_head? {sign c : Char} {mark : List Char} (form : IsMark sign mark) (first : c ∈ mark.head?) :
    c = sign := by
  cases form with
  | absent => cases first
  | signed _ _ => exact (Option.some.inj first).symm

/-- What is accepted is what the grammar gives, when any decimal digit is one. -/
theorem isSemantic_iff {version : String} : isSemantic version = true ↔ IsVersion isDecimal version.toList := by
  simp only [isSemantic, Option.any_eq_true, Option.bind_eq_bind, Option.bind_eq_some_iff, List.isEmpty_iff]
  constructor
  · rintro ⟨_, ⟨_, majorReads, _, minorReads, _, patchReads, _, prereleaseReads, buildReads⟩, rfl⟩
    obtain ⟨major, majorForm, whole⟩ := readNumber_dotted_eq_some_iff.mp majorReads
    obtain ⟨minor, minorForm, rfl⟩ := readNumber_dotted_eq_some_iff.mp minorReads
    obtain ⟨patch, patchForm, rfl, _⟩ := readNumber_last_eq_some_iff.mp patchReads
    obtain ⟨prerelease, prereleaseForm, rfl⟩ := exists_isMark_of_readMark prereleaseReads
    obtain ⟨build, buildForm, rfl⟩ := exists_isMark_of_readMark buildReads
    rw [whole, List.append_nil]
    exact .intro majorForm minorForm patchForm prereleaseForm buildForm
  · generalize version.toList = s
    rintro ⟨majorForm, minorForm, patchForm, prereleaseForm, buildForm⟩
    rename_i major minor patch prerelease build
    -- what opens a mark is no digit, and what opens the second is no part of the first
    have patchStops : ∀ c ∈ (prerelease ++ build).head?, isDecimal c = false := by
      intro c first
      rw [List.head?_append, Option.mem_def, Option.or_eq_some_iff] at first
      rcases first with here | ⟨_, later⟩
      · rw [prereleaseForm.eq_of_mem_head? here]
        decide
      · rw [buildForm.eq_of_mem_head? later]
        decide
    have prereleaseReads : readMark '-' (prerelease ++ build) = some build := by
      refine readMark_append prereleaseForm (fun first => ?_) fun c first => ?_
      · exact absurd (buildForm.eq_of_mem_head? first) (by decide)
      · rw [buildForm.eq_of_mem_head? first]
        decide
    have buildReads : readMark '+' (build ++ []) = some [] := readMark_append buildForm (by simp) (by simp)
    rw [List.append_nil] at buildReads
    refine ⟨[], ⟨_, readNumber_dotted_eq_some_iff.mpr ⟨major, majorForm, rfl⟩, _,
      readNumber_dotted_eq_some_iff.mpr ⟨minor, minorForm, rfl⟩, _,
      readNumber_last_eq_some_iff.mpr ⟨patch, patchForm, rfl, patchStops⟩, _, prereleaseReads, buildReads⟩, rfl⟩

section Ascii

variable {isDigit : Char → Bool} {s : List Char}

theorem isDecimal_of_ascii {c : Char} (ascii : c.toNat < 128) : isDecimal c = c.isDigit := if_pos ascii

theorem ascii_of_isAlphanum {c : Char} (plain : c.isAlphanum = true) : c.toNat < 128 := by
  have bounds := isAlphanum_iff.mp plain
  omega

theorem ascii_of_isDigit {c : Char} (digit : c.isDigit = true) : c.toNat < 128 :=
  ascii_of_isAlphanum (by rw [Char.isAlphanum, digit, Bool.or_true])

theorem isNumber_isDigit_iff : IsNumber Char.isDigit s ↔ IsNumber isDecimal s ∧ ∀ c ∈ s, c.toNat < 128 := by
  constructor
  · rintro ⟨nonempty, digits⟩
    have ascii : ∀ c ∈ s, c.toNat < 128 := fun c member => ascii_of_isDigit (digits c member)
    exact ⟨⟨nonempty, fun c member => (isDecimal_of_ascii (ascii c member)).trans (digits c member)⟩, ascii⟩
  · rintro ⟨⟨nonempty, digits⟩, ascii⟩
    exact ⟨nonempty, fun c member => (isDecimal_of_ascii (ascii c member)).symm.trans (digits c member)⟩

theorem IsMark.ascii {sign : Char} (form : IsMark sign s) (signs : sign.toNat < 128) : ∀ c ∈ s, c.toNat < 128 := by
  cases form with
  | absent => exact fun c member => absurd member List.not_mem_nil
  | signed _ plain =>
    refine List.forall_mem_cons.mpr ⟨signs, fun c member => ?_⟩
    rcases plain c member with letter | rfl | rfl
    · exact ascii_of_isAlphanum letter
    · decide
    · decide

/-- Only the numbers of a version may hold characters beyond ASCII, and then just when digits may. -/
theorem isVersion_isDigit_iff : IsVersion Char.isDigit s ↔ IsVersion isDecimal s ∧ ∀ c ∈ s, c.toNat < 128 := by
  constructor
  · rintro ⟨majorForm, minorForm, patchForm, prereleaseForm, buildForm⟩
    obtain ⟨majorForm, majorAscii⟩ := isNumber_isDigit_iff.mp majorForm
    obtain ⟨minorForm, minorAscii⟩ := isNumber_isDigit_iff.mp minorForm
    obtain ⟨patchForm, patchAscii⟩ := isNumber_isDigit_iff.mp patchForm
    refine ⟨.intro majorForm minorForm patchForm prereleaseForm buildForm, ?_⟩
    simp only [List.forall_mem_append, List.forall_mem_cons]
    exact ⟨majorAscii, by decide, minorAscii, by decide, patchAscii, prereleaseForm.ascii (by decide),
      buildForm.ascii (by decide)⟩
  · rintro ⟨⟨majorForm, minorForm, patchForm, prereleaseForm, buildForm⟩, ascii⟩
    simp only [List.forall_mem_append, List.forall_mem_cons] at ascii
    obtain ⟨majorAscii, _, minorAscii, _, patchAscii, _⟩ := ascii
    exact .intro (isNumber_isDigit_iff.mpr ⟨majorForm, majorAscii⟩) (isNumber_isDigit_iff.mpr ⟨minorForm, minorAscii⟩)
      (isNumber_isDigit_iff.mpr ⟨patchForm, patchAscii⟩) prereleaseForm buildForm

theorem IsVersion.exists_digit (form : IsVersion isDigit s) : ∃ c rest, s = c :: rest ∧ isDigit c = true := by
  obtain ⟨⟨nonempty, digits⟩, _⟩ := form
  obtain ⟨c, rest, rfl⟩ := List.exists_cons_of_ne_nil nonempty
  exact ⟨c, _, List.cons_append, digits c List.mem_cons_self⟩

end Ascii

section Tags

variable {tag : List Char}

/-- A tag without the letter v that it may begin with. -/
def unprefixed (tag : List Char) : List Char := (after? ['v'] tag).getD tag

/-- What stands behind one letter v and what stands behind all of them are versions alike, apart from digits beyond ASCII and
from a second v. -/
theorem isVersion_unprefixed_iff : IsVersion Char.isDigit (unprefixed tag) ↔
    IsVersion isDecimal (tag.dropWhile (· == 'v')) ∧ (∀ c ∈ tag, c.toNat < 128) ∧ ¬ ['v', 'v'] <+: tag := by
  have plain {s : List Char} (first : s.head? ≠ some 'v') : s.dropWhile (· == 'v') = s ∧ unprefixed s = s := by
    cases s with
    | nil => exact ⟨rfl, rfl⟩
    | cons c s =>
      have other : c ≠ 'v' := fun same => first (congrArg some same)
      exact ⟨List.dropWhile_cons_of_neg (by simpa using other), by rw [unprefixed, after?, if_neg other.symm]; rfl⟩
  by_cases marked : tag.head? = some 'v'
  · obtain ⟨s, rfl⟩ := List.head?_eq_some_iff.mp marked
    have stripped : unprefixed ('v' :: s) = s := by rw [unprefixed, after?_singleton, Option.getD_some]
    have letter : 'v'.toNat < 128 := by decide
    have twice : ['v', 'v'] <+: 'v' :: s ↔ s.head? = some 'v' := by cases s <;> simp [eq_comm]
    rw [stripped, List.dropWhile_cons_of_pos rfl, List.forall_mem_cons, twice, and_iff_right letter]
    by_cases again : s.head? = some 'v'
    · -- no version begins with a letter
      refine iff_of_false (fun form => ?_) fun strict => strict.2.2 again
      obtain ⟨c, rest, rfl, digit⟩ := form.exists_digit
      obtain rfl := Option.some.inj again
      exact absurd digit (by decide)
    · rw [(plain again).1, and_iff_left again]
      exact isVersion_isDigit_iff
  · have once : ¬ ['v', 'v'] <+: tag := by
      rintro ⟨rest, rfl⟩
      exact marked rfl
    rw [(plain marked).1, (plain marked).2, and_iff_left once]
    exact isVersion_isDigit_iff

end Tags

end Version

end Plumbline
