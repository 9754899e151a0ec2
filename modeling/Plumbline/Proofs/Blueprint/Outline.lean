import Mathlib.Data.List.Forall2
import Mathlib.Data.List.Induction
import Plumbline.Blueprint.Outline
import Plumbline.Proofs.Blueprint.Sections
import Plumbline.Proofs.Text.Class
import Plumbline.Proofs.Text.Lines

namespace Plumbline

namespace Section

open Text

section Numerals

/-- Whether digits are those of a number, behind any number of noughts. -/
def Spells (digits : List Char) (n : Nat) : Prop := ∃ noughts, digits = List.replicate noughts '0' ++ Nat.toDigits 10 n

variable {digits : List Char} {n : Nat}

theorem Spells.isDigit (spells : Spells digits n) : ∀ c ∈ digits, c.isDigit = true := by
  obtain ⟨noughts, rfl⟩ := spells
  refine List.forall_mem_append.mpr ⟨fun c member => ?_, fun c => Nat.isDigit_of_mem_toDigits (by decide) (by decide)⟩
  rw [List.eq_of_mem_replicate member]
  rfl

theorem Spells.ofDigitChars (spells : Spells digits n) : Nat.ofDigitChars 10 digits 0 = n := by
  obtain ⟨noughts, rfl⟩ := spells
  rw [Nat.ofDigitChars_append, Nat.ofDigitChars_replicate_zero, Nat.mul_zero, Nat.ofDigitChars_ten_toDigits]

theorem Spells.concat (spells : Spells digits n) {d : Nat} (small : d < 10) :
    Spells (digits ++ [Nat.digitChar d]) (10 * n + d) := by
  obtain ⟨noughts, rfl⟩ := spells
  have last : Nat.toDigits 10 d = [Nat.digitChar d] := Nat.toDigits_of_lt_base small
  rcases Nat.eq_zero_or_pos n with rfl | positive
  · refine ⟨noughts + 1, ?_⟩
    rw [Nat.toDigits_zero, Nat.mul_zero, Nat.zero_add, last, List.replicate_succ']
  · refine ⟨noughts, ?_⟩
    rw [← Nat.toDigits_append_toDigits (by decide) positive small, last, List.append_assoc]

theorem exists_digitChar_of_isDigit {c : Char} (digit : c.isDigit = true) : ∃ d < 10, c = Nat.digitChar d := by
  obtain ⟨least, most⟩ : 48 ≤ c.toNat ∧ c.toNat ≤ 57 := Char.isDigit_iff_toNat.mp digit
  have small : c.toNat - 48 < 10 := by omega
  refine ⟨c.toNat - 48, small, Char.toNat_inj.mp ?_⟩
  rw [Nat.toNat_digitChar_of_lt_ten small]
  omega

/-- Digits spell the number that they are read as. -/
theorem spells_ofDigitChars (nonempty : digits ≠ []) (all : ∀ c ∈ digits, c.isDigit = true) :
    Spells digits (Nat.ofDigitChars 10 digits 0) := by
  induction digits using List.reverseRecOn with
  | nil => exact absurd rfl nonempty
  | append_singleton lead c ih =>
    obtain ⟨before, last⟩ := List.forall_mem_append.mp all
    obtain ⟨d, small, rfl⟩ := exists_digitChar_of_isDigit (last c List.mem_cons_self)
    have value : Nat.ofDigitChars 10 (lead ++ [Nat.digitChar d]) 0 = 10 * Nat.ofDigitChars 10 lead 0 + d := by
      rw [Nat.ofDigitChars_append, Nat.ofDigitChars_cons_digitChar_of_lt_ten small, Nat.ofDigitChars_nil]
    rw [value]
    by_cases first : lead = []
    · subst first
      refine ⟨0, ?_⟩
      rw [Nat.ofDigitChars_nil, Nat.mul_zero, Nat.zero_add, Nat.toDigits_of_lt_base small]
      rfl
    · exact (ih first before).concat small

theorem number?_eq_some_iff (nonempty : digits ≠ []) :
    number? digits = some n ↔ n ≤ Json.largest32 ∧ Spells digits n := by
  have value : digits.foldl (fun n c => n * 10 + (c.toNat - '0'.toNat)) 0 = Nat.ofDigitChars 10 digits 0 := by
    simp only [Nat.ofDigitChars, Nat.mul_comm 10]
  rw [number?, value]
  constructor
  · intro reads
    split at reads
    · rename_i fits
      cases reads
      obtain ⟨all, fits⟩ := Bool.and_eq_true_iff.mp fits
      exact ⟨of_decide_eq_true fits, spells_ofDigitChars nonempty (List.all_eq_true.mp all)⟩
    · cases reads
  · rintro ⟨fits, spells⟩
    rw [spells.ofDigitChars]
    exact if_pos (Bool.and_eq_true_iff.mpr ⟨List.all_eq_true.mpr spells.isDigit, decide_eq_true fits⟩)

end Numerals

section Numbered

/-- What stands between a number and a title: white space, behind a dot or not. -/
def IsGap (gap : List Char) : Prop :=
  ∃ dot blanks, gap = dot ++ blanks ∧ (dot = [] ∨ dot = ['.']) ∧ blanks ≠ [] ∧ ∀ c ∈ blanks, isBlank c = true

/-- A line of digits of any script, a gap and a title. -/
structure IsNumbered (digits title s : List Char) : Prop where
  split : ∃ gap, IsGap gap ∧ s = digits ++ gap ++ title
  digits : digits ≠ [] ∧ ∀ c ∈ digits, isDecimal c = true
  title : title ≠ [] ∧ '\n' ∉ title ∧ ∀ c ∈ title.head?, isBlank c = false

variable {digits title s : List Char}

theorem IsGap.not_isDecimal {gap : List Char} (isGap : IsGap gap) : ∀ c ∈ (gap ++ title).head?, isDecimal c = false := by
  obtain ⟨dot, blanks, rfl, rfl | rfl, nonempty, blank⟩ := isGap
  · obtain ⟨first, rest, rfl⟩ := List.exists_cons_of_ne_nil nonempty
    rintro _ ⟨⟩
    exact not_isDecimal_of_isBlank (blank first List.mem_cons_self)
  · rintro _ ⟨⟩
    decide

/-- A gap is passed by stripping a dot, if there is one, and the white space behind it. -/
theorem exists_some?_behind_dot_iff {rest : List Char} (solid : ∀ c ∈ title.head?, isBlank c = false) :
    (∃ blanks, some? isBlank ((after? ['.'] rest).getD rest) = some (blanks, title)) ↔
      ∃ gap, IsGap gap ∧ rest = gap ++ title := by
  constructor
  · rintro ⟨blanks, passed⟩
    obtain ⟨whole, nonempty, blank, _⟩ := some?_eq_some_iff.mp passed
    cases dot : after? ['.'] rest with
    | none =>
      rw [dot, Option.getD_none] at whole
      exact ⟨blanks, ⟨[], blanks, rfl, .inl rfl, nonempty, blank⟩, whole⟩
    | some behind =>
      rw [dot, Option.getD_some] at whole
      refine ⟨'.' :: blanks, ⟨['.'], blanks, rfl, .inr rfl, nonempty, blank⟩, ?_⟩
      rw [after?_eq_some_iff.mp dot, whole]
      rfl
  · rintro ⟨_, ⟨dot, blanks, rfl, rfl | rfl, nonempty, blank⟩, rfl⟩
    · have none : after? ['.'] (blanks ++ title) = none := by
        obtain ⟨first, rest, rfl⟩ := List.exists_cons_of_ne_nil nonempty
        refine if_neg fun same => ?_
        have dotted := blank first List.mem_cons_self
        rw [← same] at dotted
        revert dotted
        decide
      rw [List.nil_append, none, Option.getD_none]
      exact ⟨blanks, some?_append nonempty blank solid⟩
    · rw [List.append_assoc, after?_append, Option.getD_some]
      exact ⟨blanks, some?_append nonempty blank solid⟩

theorem numbered?_eq_some_iff : numbered? s = some (digits, title) ↔ IsNumbered digits title s := by
  simp only [numbered?, Option.bind_eq_bind, Option.bind_eq_some_iff, Prod.exists, Option.ite_none_left_eq_some,
    Option.some.injEq, Prod.mk.injEq, Bool.or_eq_true, not_or, List.isEmpty_iff, List.contains_iff_mem]
  constructor
  · rintro ⟨_, rest, counted, blanks, _, passed, ⟨nonempty, line⟩, rfl, rfl⟩
    have solid := not_head_of_some? passed
    obtain ⟨gap, isGap, rfl⟩ := (exists_some?_behind_dot_iff solid).mp ⟨blanks, passed⟩
    obtain ⟨whole, some, all, _⟩ := some?_eq_some_iff.mp counted
    exact ⟨⟨gap, isGap, by rw [whole, List.append_assoc]⟩, ⟨some, all⟩, nonempty, line, solid⟩
  · rintro ⟨⟨gap, isGap, rfl⟩, ⟨some, all⟩, nonempty, line, solid⟩
    obtain ⟨blanks, passed⟩ := (exists_some?_behind_dot_iff solid).mpr ⟨gap, isGap, rfl⟩
    refine ⟨digits, gap ++ title, ?_, blanks, title, passed, ⟨nonempty, line⟩, rfl, rfl⟩
    rw [List.append_assoc]
    exact some?_append some all isGap.not_isDecimal

end Numbered

/-- A section whose number, if it has one, is what its heading begins with, and whose title is then the rest. -/
structure Numbers (s : Section) (heading : Heading) : Prop where
  level : s.level = heading.level
  number : ∀ n ∈ s.number, ∃ digits gap, Spells digits n ∧ IsGap gap ∧
    heading.text.toList = digits ++ gap ++ s.title.toList

/-- A section that has all of its heading in its number and its title. -/
structure Keeps (s : Section) (heading : Heading) : Prop extends Numbers s heading where
  title : s.number = none → s.title = heading.text

/-- Whether a heading begins, in front of a title, with a number that no 32 bits hold or whose digits are not those of
ASCII. -/
def LosesNumber (heading : Heading) (title : String) : Prop :=
  ∃ digits, IsNumbered digits title.toList heading.text.toList ∧ ∀ n ≤ Json.largest32, ¬ Spells digits n

section OfHeading

variable {heading : Heading} (solid : ∀ c ∈ heading.text.toList.getLast?, isBlank c = false)

theorem LosesNumber.title_ne {title : String} (loses : LosesNumber heading title) : title ≠ heading.text := by
  rintro rfl
  obtain ⟨digits, ⟨⟨gap, _, whole⟩, ⟨some, _⟩, _⟩, _⟩ := loses
  have lengths := congrArg List.length whole
  have positive := List.length_pos_of_ne_nil some
  simp only [List.length_append] at lengths
  omega

include solid in
theorem trimmed_of_isNumbered {digits title : List Char} (numbered : IsNumbered digits title heading.text.toList) :
    Document.trimmed title = String.ofList title := by
  obtain ⟨⟨gap, _, whole⟩, _, nonempty, _, first⟩ := numbered
  rw [whole, List.getLast?_append_of_ne_nil _ nonempty] at solid
  rw [Document.trimmed, trim_of_solid_ends first solid]

include solid in
theorem ofHeading_of_isNumbered {digits title : List Char} (numbered : IsNumbered digits title heading.text.toList) :
    ofHeading heading = ⟨heading.level, number? digits, String.ofList title⟩ := by
  rw [ofHeading, numbered?_eq_some_iff.mpr numbered]
  dsimp only
  rw [trimmed_of_isNumbered solid numbered]

theorem ofHeading_of_not_isNumbered (unnumbered : ∀ digits title, ¬ IsNumbered digits title heading.text.toList) :
    ofHeading heading = ⟨heading.level, none, heading.text⟩ := by
  have none : numbered? heading.text.toList = none :=
    Option.eq_none_iff_forall_ne_some.mpr fun (digits, title) begins =>
      unnumbered digits title (numbered?_eq_some_iff.mp begins)
  rw [ofHeading, none]

include solid in
theorem ofHeading_of_losesNumber {title : String} (loses : LosesNumber heading title) :
    ofHeading heading = ⟨heading.level, none, title⟩ := by
  obtain ⟨digits, numbered, unread⟩ := loses
  have none : number? digits = none := Option.eq_none_iff_forall_ne_some.mpr fun n reads => by
    obtain ⟨fits, spells⟩ := (number?_eq_some_iff numbered.digits.1).mp reads
    exact unread n fits spells
  rw [ofHeading_of_isNumbered solid numbered, none, String.ofList_toList]

include solid in
theorem numbers_ofHeading : (ofHeading heading).Numbers heading := by
  by_cases begins : ∃ digits title, IsNumbered digits title heading.text.toList
  · obtain ⟨digits, title, numbered⟩ := begins
    rw [ofHeading_of_isNumbered solid numbered]
    refine ⟨rfl, fun n reads => ?_⟩
    obtain ⟨_, spells⟩ := (number?_eq_some_iff numbered.digits.1).mp reads
    obtain ⟨gap, isGap, whole⟩ := numbered.split
    exact ⟨digits, gap, spells, isGap, by rw [whole, String.toList_ofList]⟩
  · simp only [not_exists] at begins
    rw [ofHeading_of_not_isNumbered begins]
    exact ⟨rfl, nofun⟩

include solid in
theorem keeps_ofHeading_iff : (ofHeading heading).Keeps heading ↔ ∀ title, ¬ LosesNumber heading title := by
  constructor
  · intro keeps title loses
    have lost := ofHeading_of_losesNumber solid loses
    have same : (ofHeading heading).title = heading.text := keeps.title (by rw [lost])
    rw [lost] at same
    exact loses.title_ne same
  · refine fun kept => ⟨numbers_ofHeading solid, fun unread => ?_⟩
    by_cases begins : ∃ digits title, IsNumbered digits title heading.text.toList
    · obtain ⟨digits, title, numbered⟩ := begins
      rw [ofHeading_of_isNumbered solid numbered] at unread
      refine absurd ⟨digits, by rwa [String.toList_ofList], fun n fits spells => ?_⟩ (kept (String.ofList title))
      rw [(number?_eq_some_iff numbered.digits.1).mpr ⟨fits, spells⟩] at unread
      cases unread
    · simp only [not_exists] at begins
      rw [ofHeading_of_not_isNumbered begins]

end OfHeading

end Section

namespace Document

open Section

/-- The text of a heading does not end in white space. -/
theorem not_isBlank_of_mem_headings {text : String} {heading : Heading} (member : heading ∈ (ofText text).headings) :
    ∀ c ∈ heading.text.toList.getLast?, Text.isBlank c = false := by
  rw [ofText, foldl_add_eq] at member
  obtain ⟨leaf, _, made⟩ := List.mem_filterMap.mp member
  cases leaf with
  | heading level s =>
    cases made
    rw [trimmed, String.toList_ofList]
    exact fun c => Text.not_of_getLast?_stripWhile
  | code info s => cases made
  | paragraph _ s => cases made

/-- The outline has a section for each heading in turn. It has the number that the heading begins with and the title behind
it, or the whole text for a title, unless the number is one that no 32 bits hold or whose digits are not those of ASCII.
That one is left out. -/
theorem outline_keeps_iff (text : String) : List.Forall₂ (fun heading s => s.Numbers heading ∧
    (s.Keeps heading ↔ ∀ title, ¬ LosesNumber heading title) ∧
    ∀ title, LosesNumber heading title → s = ⟨heading.level, none, title⟩)
      (ofText text).headings (ofText text).outline := by
  rw [outline, List.forall₂_map_right_iff, List.forall₂_same]
  intro heading member
  have solid := not_isBlank_of_mem_headings member
  exact ⟨numbers_ofHeading solid, keeps_ofHeading_iff solid, fun _ => ofHeading_of_losesNumber solid⟩

/-- A number of eleven digits is in neither the number nor the title of its section. -/
theorem long_number_left_out :
    ¬ ∀ text : String, List.Forall₂ (fun heading s => s.Keeps heading) (ofText text).headings (ofText text).outline := by
  intro keeps
  have headings : (ofText "# 99999999999. Title").headings = [⟨1, "99999999999. Title"⟩] := by decide +kernel
  have outlined : (ofText "# 99999999999. Title").outline = [⟨1, none, "Title"⟩] := by decide +kernel
  have kept := keeps "# 99999999999. Title"
  rw [headings, outlined] at kept
  obtain ⟨first, _⟩ := List.forall₂_cons.mp kept
  exact absurd (first.title rfl) (by decide)

end Document

end Plumbline
