import Plumbline.Blueprint.Dependencies
import Plumbline.Proofs.Text.Lines

namespace Plumbline.Dependencies

open Text

/-- White space within a line. -/
structure Gap where
  chars : List Char
  blank : ∀ c ∈ chars, c = ' ' ∨ c = '\t'

/-- The name of a table. Nothing in it reads as the mention of a dependency. -/
structure Table where
  chars : List Char
  noFeed : '\n' ∉ chars
  silent : ∀ second, second <:+ chars ++ [']'] → second ≠ [] → ∀ tail, readPinMention .none (second ++ tail) = .none

/-- A known package with a version of digits and dots behind any signs. -/
structure Entry where
  name : String
  left : Gap
  right : Gap
  signs : List Char
  version : List Char
  known : name ∈ knownBackend
  signed : ∀ c ∈ signs, c = '^' ∨ c = '~' ∨ c = '>' ∨ c = '='
  numbered : ∀ c ∈ version, c.isDigit = true ∨ c = '.'

/-- A line of a block that declares dependencies. -/
inductive Row where
  | blank (gap : Gap)
  | heading (table : Table)
  | entry (entry : Entry)

namespace Entry

/-- What stands behind the equals sign of an entry. -/
def value (entry : Entry) : List Char :=
  entry.right.chars ++ '\x22' :: (entry.signs ++ (entry.version ++ ['\x22']))

/-- What stands behind the name of an entry. -/
def rest (entry : Entry) : List Char := entry.left.chars ++ '=' :: entry.value

/-- Whether the version of an entry is one that a blueprint pins: it begins with a digit. -/
def isPinned (entry : Entry) : Bool := (entry.version.head?.map Char.isDigit).getD false

def pin (entry : Entry) : List Char × List Char := (entry.name.toList, entry.version)

end Entry

namespace Row

def chars : Row → List Char
  | .blank gap => gap.chars
  | .heading table => '[' :: (table.chars ++ [']'])
  | .entry given => given.name.toList ++ given.rest

def entry? : Row → Option Entry
  | .entry given => some given
  | _ => .none

end Row

/-- Some rows under one another. The text ends in a line feed if the last of them is empty. -/
def blockText (rows : List Row) : List Char := ['\n'].intercalate (rows.map Row.chars)

def entries (rows : List Row) : List Entry := rows.filterMap Row.entry?

/-- The pins that an extraction finds in a block, in order. -/
def pins (rows : List Row) : List (List Char × List Char) := ((entries rows).filter Entry.isPinned).map Entry.pin

/-- What stands behind the first of some rows. -/
def behind : List Row → List Char
  | [] => []
  | rows => '\n' :: blockText rows

theorem blockText_cons (row : Row) (rows : List Row) : blockText (row :: rows) = row.chars ++ behind rows := by
  cases rows with
  | nil => rw [blockText, List.map_singleton, List.intercalate_singleton, behind, List.append_nil]
  | cons next rows =>
    rw [blockText, List.map_cons, List.map_cons, List.intercalate_cons_cons, List.append_assoc]
    rfl

theorem head?_behind (rows : List Row) : ∀ c ∈ (behind rows).head?, c = '\n' := by
  cases rows with
  | nil => exact fun _ first => by cases first
  | cons row rows => exact fun _ first => (Option.some.inj first).symm

theorem Gap.isBlank (gap : Gap) : ∀ c ∈ gap.chars, isBlank c = true := by
  intro c member
  rcases gap.blank c member with rfl | rfl <;> decide

namespace Entry

variable (entry : Entry)

theorem isNameChar_of_mem_name : ∀ c ∈ entry.name.toList, isNameChar c = true := by
  have all : ∀ name ∈ knownBackend, name.toList.all isNameChar = true := by decide +kernel
  exact List.all_eq_true.mp (all entry.name entry.known)

/-- A known name begins with a small letter and has another one. -/
theorem exists_name_eq : ∃ c d letters, entry.name.toList = c :: d :: letters ∧ 'a' ≤ c ∧ c ≤ 'z' ∧ isWord c = true ∧
    isBlank c = false ∧ c ≠ '\x22' := by
  have long : ∀ name ∈ knownBackend, 2 ≤ name.toList.length := by decide +kernel
  have plain : ∀ name ∈ knownBackend, (name.toList.head?.all fun c =>
      'a' ≤ c && c ≤ 'z' && isWord c && !isBlank c && c != '\x22') = true := by decide +kernel
  obtain ⟨c, rest, whole⟩ := List.exists_cons_of_length_pos (Nat.lt_of_succ_lt (long entry.name entry.known))
  obtain ⟨d, letters, rfl⟩ :=
    List.exists_cons_of_length_pos (Nat.lt_of_succ_lt_succ (whole ▸ long entry.name entry.known))
  have first := plain entry.name entry.known
  rw [whole] at first
  simp only [List.head?_cons, Option.all_some, Bool.and_eq_true, decide_eq_true_eq, Bool.not_eq_true', bne_iff_ne,
    and_assoc] at first
  exact ⟨c, d, letters, whole, first⟩

theorem name_ne_nil : entry.name.toList ≠ [] := by
  obtain ⟨c, d, letters, same, _⟩ := entry.exists_name_eq
  rw [same]
  exact List.cons_ne_nil _ _

variable (tail : List Char)

/-- Behind a name stands an equals sign or white space before it. -/
theorem head_rest : ∀ c ∈ (entry.rest ++ tail).head?, c = ' ' ∨ c = '\t' ∨ c = '=' := by
  intro c first
  cases gap : entry.left.chars with
  | nil =>
    rw [rest, gap] at first
    exact .inr (.inr (Option.some.inj first).symm)
  | cons d gap' =>
    rw [rest, gap] at first
    obtain rfl := Option.some.inj first
    exact (entry.left.blank d (gap ▸ List.mem_cons_self)).imp_right .inl

/-- An entry without the quotation mark at its end. -/
def front (entry : Entry) : List Char :=
  entry.name.toList ++ (entry.left.chars ++ '=' :: (entry.right.chars ++ '\x22' :: (entry.signs ++ entry.version)))

theorem front_append (tail : List Char) :
    entry.front ++ '\x22' :: tail = entry.name.toList ++ (entry.rest ++ tail) := by
  simp [front, rest, value, List.append_assoc]

theorem front_concat : entry.front ++ ['\x22'] = (Row.entry entry).chars := by
  rw [front_append, List.append_nil, Row.chars]

theorem front_ne_nil : entry.front ≠ [] := List.append_ne_nil_of_left_ne_nil entry.name_ne_nil _

/-- What an entry says after its name consists of white space, signs, digits and dots. -/
theorem of_mem_rest {P : Char → Prop} (blank : P ' ' ∧ P '\t') (signs : P '=' ∧ P '\x22' ∧ P '^' ∧ P '~' ∧ P '>')
    (numbered : ∀ c, c.isDigit = true ∨ c = '.' → P c) : ∀ c ∈ entry.rest, P c := by
  obtain ⟨space, tab⟩ := blank
  obtain ⟨equals, quote, caret, tilde, greater⟩ := signs
  have inGap (gap : Gap) : ∀ c ∈ gap.chars, P c := by
    intro c member
    rcases gap.blank c member with rfl | rfl <;> assumption
  have inSigns : ∀ c ∈ entry.signs, P c := by
    intro c member
    rcases entry.signed c member with rfl | rfl | rfl | rfl <;> assumption
  simp only [rest, value, List.forall_mem_append, List.forall_mem_cons]
  exact ⟨inGap entry.left, equals, inGap entry.right, quote, inSigns,
    fun c member => numbered c (entry.numbered c member), quote, List.forall_mem_nil P⟩

theorem not_letter_of_mem_rest : ∀ c ∈ entry.rest, ¬ ('a' ≤ c ∧ c ≤ 'z') := by
  refine entry.of_mem_rest (by decide) (by decide) ?_
  rintro c (digit | rfl)
  · simp only [Char.isDigit, Bool.and_eq_true, decide_eq_true_eq, ge_iff_le, UInt32.le_iff_toNat_le] at digit
    rw [Char.le_def, UInt32.le_iff_toNat_le]
    have upper : c.val.toNat ≤ 57 := digit.2
    have lower : 'a'.val.toNat = 97 := rfl
    omega
  · decide

end Entry

theorem Row.not_feed_mem (row : Row) : '\n' ∉ row.chars := by
  cases row with
  | blank gap => exact fun feed => by rcases gap.blank _ feed with same | same <;> cases same
  | heading table =>
    intro feed
    rcases List.mem_cons.mp feed with same | feed
    · cases same
    rcases List.mem_append.mp feed with inName | closing
    · exact table.noFeed inName
    · cases List.mem_singleton.mp closing
  | entry given =>
    have named : ∀ c ∈ given.name.toList, c ≠ '\n' := by
      rintro c member rfl
      exact absurd (given.isNameChar_of_mem_name _ member) (by decide)
    have rest : ∀ c ∈ given.rest, c ≠ '\n' := by
      refine given.of_mem_rest (by decide) (by decide) ?_
      rintro c (digit | rfl) same
      · rw [same] at digit
        cases digit
      · cases same
    exact fun feed => (List.mem_append.mp feed).elim (named _ · rfl) (rest _ · rfl)

theorem Row.withoutReturn_chars (row : Row) : withoutReturn row.chars = row.chars := by
  refine withoutReturn_eq_self fun last => ?_
  cases row with
  | blank gap => rcases gap.blank _ (List.mem_of_getLast? last) with same | same <;> cases same
  | heading table =>
    rw [Row.chars, ← List.cons_append, List.getLast?_concat] at last
    cases last
  | entry given =>
    rw [← given.front_concat, List.getLast?_concat] at last
    cases last

section Rows

variable {rows : List Row}

theorem pins_cons_of_not_entry {row : Row} (other : row.entry? = .none) : pins (row :: rows) = pins rows := by
  simp [pins, entries, other]

theorem pins_cons_entry (given : Entry) :
    pins (.entry given :: rows) = if given.isPinned then given.pin :: pins rows else pins rows := by
  cases pinned : given.isPinned <;> simp [pins, entries, Row.entry?, pinned]

end Rows

end Plumbline.Dependencies
