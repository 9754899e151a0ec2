import Plumbline.Blueprint.Model
import Plumbline.Proofs.Text.Class
import Plumbline.Proofs.Text.Lines
import Plumbline.Proofs.Text.Search

namespace Plumbline.Source

open Text

/-- The characters that the name of a model is made of where it is referred to. -/
def isTargetChar (c : Char) : Bool := isWord c || c == '.'

theorem not_isTargetChar_of_isBlank {c : Char} (blank : isBlank c = true) : isTargetChar c = false := by
  have point : c ≠ '.' := by
    rintro rfl
    exact absurd blank (by decide)
  rw [isTargetChar, not_isWord_of_isBlank blank, beq_eq_false_iff_ne.mpr point, Bool.or_self]

theorem eq_of_isQuote {c : Char} (quote : isQuote c = true) : c = '\x27' ∨ c = '\x22' := by simpa [isQuote] using quote

theorem not_isBlank_of_isQuote {c : Char} (quote : isQuote c = true) : isBlank c = false := by
  rcases eq_of_isQuote quote with rfl | rfl <;> decide

theorem not_isTargetChar_of_isQuote {c : Char} (quote : isQuote c = true) : isTargetChar c = false := by
  rcases eq_of_isQuote quote with rfl | rfl <;> decide

/-- A text begins with a name: nothing but blanks and at most one quotation mark stand in front of it, and it goes on
for as long as names do. -/
def Opens (name inside : List Char) : Prop :=
  ∃ gap quote rest, inside = gap ++ (quote ++ (name ++ rest)) ∧ (∀ c ∈ gap, isBlank c = true) ∧
    (quote = [] ∨ ∃ q, isQuote q = true ∧ quote = [q]) ∧ name ≠ [] ∧ (∀ c ∈ name, isTargetChar c = true) ∧
    ∀ c ∈ rest.head?, isTargetChar c = false

theorem split_of_some?_dropQuote {inside name rest : List Char}
    (reads : some? isTargetChar (dropQuote (trimStart inside)) = some (name, rest)) :
    ∃ gap quote, inside = gap ++ (quote ++ (name ++ rest)) ∧ (∀ c ∈ gap, isBlank c = true) ∧
      (quote = [] ∨ ∃ q, isQuote q = true ∧ quote = [q]) ∧ name ≠ [] ∧ (∀ c ∈ name, isTargetChar c = true) := by
  have halves : inside.takeWhile isBlank ++ trimStart inside = inside := List.takeWhile_append_dropWhile
  obtain ⟨split, nonempty, all⟩ := some?_eq_some reads
  refine ⟨inside.takeWhile isBlank, ?_⟩
  cases front : trimStart inside with
  | nil =>
    rw [front, dropQuote, List.nil_eq_append_iff] at split
    exact absurd split.1 nonempty
  | cons c s =>
    rw [front, dropQuote] at split
    rw [front] at halves
    cases quote : isQuote c with
    | true =>
      rw [if_pos quote] at split
      exact ⟨[c], by rw [← split, List.singleton_append, halves], fun c member => List.mem_takeWhile_imp member,
        .inr ⟨c, quote, rfl⟩, nonempty, all⟩
    | false =>
      rw [if_neg (by simp [quote])] at split
      exact ⟨[], by rw [← split, List.nil_append, halves], fun c member => List.mem_takeWhile_imp member, .inl rfl,
        nonempty, all⟩

theorem some?_dropQuote_of_split {gap quote name rest : List Char} (blank : ∀ c ∈ gap, isBlank c = true)
    (quoted : quote = [] ∨ ∃ q, isQuote q = true ∧ quote = [q]) (nonempty : name ≠ [])
    (all : ∀ c ∈ name, isTargetChar c = true) (stops : ∀ c ∈ rest.head?, isTargetChar c = false) :
    some? isTargetChar (dropQuote (trimStart (gap ++ (quote ++ (name ++ rest))))) = some (name, rest) := by
  have behind : dropQuote (trimStart (quote ++ (name ++ rest))) = name ++ rest := by
    rcases quoted with rfl | ⟨q, isQuote, rfl⟩
    · obtain ⟨c, name, rfl⟩ := List.exists_cons_of_ne_nil nonempty
      have target := all c List.mem_cons_self
      have solid : isBlank c = false := by
        by_contra blank
        rw [not_isTargetChar_of_isBlank (Bool.of_not_eq_false blank)] at target
        contradiction
      have plain : ¬isQuote c = true := by
        intro quote
        rw [not_isTargetChar_of_isQuote quote] at target
        contradiction
      rw [List.nil_append, List.cons_append, trimStart_cons solid, dropQuote, if_neg plain]
    · rw [List.singleton_append, trimStart_cons (not_isBlank_of_isQuote isQuote), dropQuote, if_pos isQuote]
  rw [trimStart_append blank, behind, some?_append nonempty all stops]

theorem Opens.of_some? {inside name rest : List Char}
    (reads : some? isTargetChar (dropQuote (trimStart inside)) = some (name, rest)) : Opens name inside := by
  obtain ⟨gap, quote, split, blank, quoted, nonempty, all⟩ := split_of_some?_dropQuote reads
  exact ⟨gap, quote, rest, split, blank, quoted, nonempty, all, not_head_of_some? reads⟩

theorem opens_iff {inside name : List Char} :
    Opens name inside ↔ (some? isTargetChar (dropQuote (trimStart inside))).map Prod.fst = some name := by
  constructor
  · rintro ⟨gap, quote, rest, rfl, blank, quoted, nonempty, all, stops⟩
    rw [some?_dropQuote_of_split blank quoted nonempty all stops]
    rfl
  · intro reads
    obtain ⟨⟨_, rest⟩, found, rfl⟩ := Option.map_eq_some_iff.mp reads
    exact .of_some? found

instance (name inside : List Char) : Decidable (Opens name inside) := decidable_of_iff _ opens_iff.symm

/-- A text that begins with a name may go on with anything that ends the name. -/
theorem Opens.append {inside name more : List Char} (opens : Opens name inside)
    (stops : ∀ c ∈ more.head?, isTargetChar c = false) : Opens name (inside ++ more) := by
  obtain ⟨gap, quote, rest, rfl, blank, quoted, nonempty, all, ends⟩ := opens
  refine ⟨gap, quote, rest ++ more, by simp only [List.append_assoc], blank, quoted, nonempty, all, ?_⟩
  cases rest with
  | nil => exact stops
  | cons c rest => exact ends

/-- What a relationship is read from: its constructor, an opening parenthesis, and the name it begins with. -/
theorem relationTarget_eq_some {before : Option Char} {s name rest : List Char}
    (reads : relationTarget before s = some (name, rest)) :
    ∃ (c : Cardinality) (gap inside : List Char), s = c.constructor.toList ++ (gap ++ '(' :: inside) ∧
      (∀ c ∈ gap, isBlank c = true) ∧ some? isTargetChar (dropQuote (trimStart inside)) = some (name, rest) := by
  simp only [relationTarget, Option.bind_eq_bind, Option.bind_eq_some_iff] at reads
  obtain ⟨behind, constructor, reads⟩ := reads
  split at reads
  · rename_i inside opens
    have halves : behind.takeWhile isBlank ++ '(' :: inside = behind := opens ▸ List.takeWhile_append_dropWhile
    have blank : ∀ c ∈ behind.takeWhile isBlank, isBlank c = true := fun c member => List.mem_takeWhile_imp member
    simp only [Option.or_eq_some_iff, after?_eq_some_iff] at constructor
    rcases constructor with rfl | ⟨_, rfl | ⟨_, rfl⟩⟩
    · exact ⟨.foreignKey, _, inside, congrArg ("ForeignKey".toList ++ ·) halves.symm, blank, reads⟩
    · exact ⟨.oneToOne, _, inside, congrArg ("OneToOneField".toList ++ ·) halves.symm, blank, reads⟩
    · exact ⟨.manyToMany, _, inside, congrArg ("ManyToManyField".toList ++ ·) halves.symm, blank, reads⟩
  · contradiction

theorem after?_constructor (c : Cardinality) (rest : List Char) :
    (after? "ForeignKey".toList (c.constructor.toList ++ rest)).or
      ((after? "OneToOneField".toList (c.constructor.toList ++ rest)).or
        (after? "ManyToManyField".toList (c.constructor.toList ++ rest))) = some rest := by
  cases c <;> rfl

theorem relationTarget_of_opens (before : Option Char) (c : Cardinality) {gap inside name : List Char}
    (blank : ∀ c ∈ gap, isBlank c = true) (opens : Opens name inside) :
    ∃ rest, relationTarget before (c.constructor.toList ++ (gap ++ '(' :: inside)) = some (name, rest) ∧
      rest.length < inside.length := by
  obtain ⟨front, quote, rest, rfl, blankFront, quoted, nonempty, all, stops⟩ := opens
  refine ⟨rest, ?_, ?_⟩
  · have parenthesis : trimStart (gap ++ '(' :: (front ++ (quote ++ (name ++ rest)))) =
        '(' :: (front ++ (quote ++ (name ++ rest))) := (trimStart_append blank _).trans (trimStart_cons (by decide) _)
    rw [relationTarget, after?_constructor, Option.bind_eq_bind, Option.bind_some, parenthesis]
    exact some?_dropQuote_of_split blankFront quoted nonempty all stops
  · have positive := List.length_pos_iff.mpr nonempty
    simp only [List.length_append]
    omega

theorem leavesEnd_relationTarget : Reader.LeavesEnd relationTarget := by
  intro before s name rest reads
  obtain ⟨c, gap, inside, rfl, _, target⟩ := relationTarget_eq_some reads
  obtain ⟨front, quote, rfl, _⟩ := split_of_some?_dropQuote target
  exact ⟨c.constructor.toList ++ (gap ++ '(' :: (front ++ (quote ++ name))), by simp⟩

/-- Up to the end of the name that is read, a relationship has no equals sign. -/
theorem not_equals_mem_of_relation {c : Cardinality} {gap front quote name : List Char}
    (blank : ∀ c ∈ gap, isBlank c = true) (blankFront : ∀ c ∈ front, isBlank c = true)
    (quoted : quote = [] ∨ ∃ q, isQuote q = true ∧ quote = [q]) (all : ∀ c ∈ name, isTargetChar c = true) :
    '=' ∉ c.constructor.toList ++ (gap ++ '(' :: (front ++ (quote ++ name))) := by
  have inConstructor : '=' ∉ c.constructor.toList := by cases c <;> decide
  have inGap : '=' ∉ gap := fun member => absurd (blank _ member) (by decide)
  have inFront : '=' ∉ front := fun member => absurd (blankFront _ member) (by decide)
  have inName : '=' ∉ name := fun member => absurd (all _ member) (by decide)
  have inQuote : '=' ∉ quote := by
    rcases quoted with rfl | ⟨q, isQuote, rfl⟩
    · exact List.not_mem_nil
    · rcases eq_of_isQuote isQuote with rfl | rfl <;> decide
  simp [inConstructor, inGap, inFront, inQuote, inName]

/-- A relationship that is assigned to a field is not taken in by another one that begins before it: that one would have
to reach across the equals sign, or to begin within the qualifier of the constructor. -/
theorem spares_relationTarget (front tail : List Char) {gap : List Char} (blank : ∀ c ∈ gap, isBlank c = true) :
    Reader.Spares relationTarget none (front ++ '=' :: (gap ++ "models.".toList)) tail := by
  intro first second halves nonempty other behind reads
  obtain ⟨c, between, inside, whole, blankBetween, target⟩ := relationTarget_eq_some reads
  obtain ⟨margin, quote, rfl, blankMargin, quoted, _, all⟩ := split_of_some?_dropQuote target
  have noEquals := not_equals_mem_of_relation (c := c) blankBetween blankMargin quoted all
  have whole' : second ++ tail =
      (c.constructor.toList ++ (between ++ '(' :: (margin ++ (quote ++ other)))) ++ behind := by
    rw [whole]
    simp only [List.append_assoc, List.cons_append]
  rcases List.append_eq_append_iff.mp whole' with ⟨more, within, _⟩ | ⟨more, _, rest⟩
  · exfalso
    have noEquals' : '=' ∉ second := fun member => noEquals (within ▸ List.mem_append_left more member)
    have inQualifier : second <:+ gap ++ "models.".toList := by
      rcases List.append_eq_append_iff.mp halves with ⟨ahead, _, rest⟩ | ⟨ahead, _, rest⟩
      · cases ahead with
        | nil =>
          rw [List.nil_append] at rest
          exact absurd (rest ▸ List.mem_cons_self) noEquals'
        | cons d ahead => exact ⟨ahead, (List.cons.inj rest).2.symm⟩
      · exact absurd (rest ▸ List.mem_append_right ahead List.mem_cons_self) noEquals'
    obtain ⟨d, second, rfl⟩ := List.exists_cons_of_ne_nil nonempty
    have initial : c.constructor.toList.head? = some d := by
      have heads := congrArg List.head? within
      cases c <;> exact heads
    rcases List.mem_append.mp (inQualifier.subset List.mem_cons_self) with inGap | inWord
    · have blankD := blank d inGap
      cases c <;> obtain rfl := Option.some.inj initial <;> contradiction
    · cases c <;> obtain rfl := Option.some.inj initial <;> revert inWord <;> decide
  · exact ⟨more, rest.symm⟩

theorem mem_findAll_relationTarget (front : List Char) (c : Cardinality) {gap between inside name : List Char}
    (blank : ∀ c ∈ gap, isBlank c = true) (blankBetween : ∀ c ∈ between, isBlank c = true) (opens : Opens name inside) :
    name ∈ findAll relationTarget none
      (front ++ '=' :: (gap ++ "models.".toList) ++ (c.constructor.toList ++ (between ++ '(' :: inside))) := by
  obtain ⟨rest, reads, shorter⟩ := relationTarget_of_opens _ c blankBetween opens
  refine mem_findAll_of_spares leavesEnd_relationTarget reads ?_ (spares_relationTarget front _ blank)
  simp only [List.length_append, List.length_cons]
  omega

/-- A relationship names a model when both names end in the same part. -/
theorem relatesTo_iff {body target : String} :
    relatesTo body target = true ↔
      ∃ name ∈ findAll relationTarget none body.toList, lastPart name = lastPart target.toList := by
  simp only [relatesTo, List.any_eq_true, Bool.or_eq_true, beq_iff_eq]
  constructor
  · rintro ⟨name, found, rfl | same⟩
    · exact ⟨_, found, rfl⟩
    · exact ⟨name, found, same⟩
  · rintro ⟨name, found, same⟩
    exact ⟨name, found, .inr same⟩

/-- Somewhere in a class body a relationship begins with a name that ends as the target does. -/
def Refers (body target : String) : Prop :=
  ∃ (front : List Char) (c : Cardinality) (gap inside name : List Char),
    body.toList = front ++ (c.constructor.toList ++ (gap ++ '(' :: inside)) ∧ (∀ c ∈ gap, isBlank c = true) ∧
      Opens name inside ∧ lastPart name = lastPart target.toList

theorem refers_of_relatesTo {body target : String} (relates : relatesTo body target = true) : Refers body target := by
  obtain ⟨name, found, same⟩ := relatesTo_iff.mp relates
  obtain ⟨lead, tail, rest, split, reads⟩ := mem_findAll leavesEnd_relationTarget found
  obtain ⟨c, gap, inside, rfl, blank, target⟩ := relationTarget_eq_some reads
  exact ⟨lead, c, gap, inside, name, split, blank, .of_some? target, same⟩

end Plumbline.Source
