import Plumbline.Json.Reader
import Mathlib.Data.List.Basic
import Mathlib.Tactic.SplitIfs

namespace Plumbline.Json

/-- Whether a character can go on with a number. -/
def isNumeral (c : Char) : Bool := c.isDigit || c == '.' || c == 'e' || c == 'E'

/-- A number ends where a text like this begins. -/
def Ends (rest : List Char) : Prop := ∀ c ∈ rest.head?, isNumeral c = false

/-- What a reader takes from the end of a text it takes as well where the text goes on, if numbers end there. -/
structure Local {α : Type} (read : List Char → Option (α × List Char)) : Prop where
  append {s rest behind : List Char} {a : α} :
    read s = some (a, rest) → Ends behind → read (s ++ behind) = some (a, rest ++ behind)
  suffix {s rest : List Char} {a : α} : read s = some (a, rest) → rest <:+ s

section Readers

variable {α β : Type}

theorem Ends.not_isNumeral {c : Char} {rest : List Char} (ends : Ends (c :: rest)) : isNumeral c = false := ends c rfl

theorem Local.map {read : List Char → Option (α × List Char)} (reads : Local read) (f : α → β) :
    Local fun s => (read s).map fun (a, rest) => (f a, rest) where
  append := by
    intro s rest behind b found ends
    obtain ⟨⟨a, rest⟩, taken, same⟩ := Option.map_eq_some_iff.mp found
    obtain ⟨rfl, rfl⟩ := Prod.mk.inj same
    exact Option.map_eq_some_iff.mpr ⟨(a, rest ++ behind), reads.append taken ends, rfl⟩
  suffix := by
    intro s rest b found
    obtain ⟨⟨a, rest⟩, taken, same⟩ := Option.map_eq_some_iff.mp found
    obtain ⟨rfl, rfl⟩ := Prod.mk.inj same
    exact reads.suffix taken

theorem Local.bind {read : List Char → Option (α × List Char)} {next : α → List Char → Option (β × List Char)}
    (reads : Local read) (goesOn : ∀ a, Local (next a)) :
    Local fun s => (read s).bind fun (a, rest) => next a rest where
  append := by
    intro s rest behind b found ends
    obtain ⟨⟨a, middle⟩, taken, second⟩ := Option.bind_eq_some_iff.mp found
    exact Option.bind_eq_some_iff.mpr ⟨(a, middle ++ behind), reads.append taken ends, (goesOn a).append second ends⟩
  suffix := by
    intro s rest b found
    obtain ⟨⟨a, middle⟩, taken, second⟩ := Option.bind_eq_some_iff.mp found
    exact ((goesOn a).suffix second).trans (reads.suffix taken)

theorem takeWhile_isDigit_append {behind : List Char} (ends : Ends behind) (s : List Char) :
    (s ++ behind).takeWhile Char.isDigit = s.takeWhile Char.isDigit ∧
      (s ++ behind).dropWhile Char.isDigit = s.dropWhile Char.isDigit ++ behind := by
  induction s with
  | nil =>
    cases behind with
    | nil => exact ⟨rfl, rfl⟩
    | cons c behind =>
      have noDigit := ends.not_isNumeral
      simp only [isNumeral, Bool.or_eq_false_iff] at noDigit
      simp [noDigit.1.1.1]
  | cons c s ih => cases digit : c.isDigit <;> simp [digit, ih]

theorem local_readDigits : Local readDigits where
  append := by
    intro s rest behind digits found ends
    obtain ⟨taken, left⟩ := takeWhile_isDigit_append ends s
    unfold readDigits at found ⊢
    rw [taken, left]
    split at found
    · contradiction
    · obtain ⟨rfl, rfl⟩ := Prod.mk.inj (Option.some.inj found)
      rfl
  suffix := by
    intro s rest digits found
    unfold readDigits at found
    split at found
    · contradiction
    · obtain ⟨rfl, rfl⟩ := Prod.mk.inj (Option.some.inj found)
      exact List.dropWhile_suffix Char.isDigit

/-- A part of a literal that stands behind one of the marks, if one is there. -/
def readMarked (marks : List Char) (read : List Char → Option (α × List Char)) :
    List Char → Option (Option α × List Char)
  | c :: s => if c ∈ marks then (read s).map fun (a, rest) => (some a, rest) else some (none, c :: s)
  | [] => some (none, [])

theorem local_readMarked {marks : List Char} {read : List Char → Option (α × List Char)} (reads : Local read)
    (numerals : marks.all isNumeral = true) : Local (readMarked marks read) where
  append := by
    intro s rest behind a found ends
    cases s with
    | nil =>
      obtain ⟨rfl, rfl⟩ := Prod.mk.inj (Option.some.inj found)
      cases behind with
      | nil => rfl
      | cons c behind =>
        have noMark : c ∉ marks := fun mark =>
          Bool.false_ne_true (ends.not_isNumeral.symm.trans (List.all_eq_true.mp numerals c mark))
        exact if_neg noMark
    | cons c s =>
      rw [readMarked] at found
      rw [List.cons_append, readMarked]
      split
      · rename_i mark
        rw [if_pos mark] at found
        exact (reads.map some).append found ends
      · rename_i noMark
        rw [if_neg noMark] at found
        obtain ⟨rfl, rfl⟩ := Prod.mk.inj (Option.some.inj found)
        rfl
  suffix := by
    intro s rest a found
    cases s with
    | nil =>
      obtain ⟨rfl, rfl⟩ := Prod.mk.inj (Option.some.inj found)
      exact List.suffix_rfl
    | cons c s =>
      rw [readMarked] at found
      split at found
      · exact ((reads.map some).suffix found).trans (List.suffix_cons c s)
      · obtain ⟨rfl, rfl⟩ := Prod.mk.inj (Option.some.inj found)
        exact List.suffix_rfl

theorem readMarked_of_mark {marks : List Char} {read : List Char → Option (α × List Char)} {c : Char} {s : List Char}
    (mark : c ∈ marks) : readMarked marks read (c :: s) = (read s).map fun (a, rest) => (some a, rest) :=
  if_pos mark

/-- One reader behind a sign, and another one where the sign is missing. -/
def readBehind (sign : Char) (read unsigned : List Char → Option (α × List Char)) :
    List Char → Option (α × List Char)
  | c :: s => if c = sign then read s else unsigned (c :: s)
  | [] => none

theorem local_readBehind {read unsigned : List Char → Option (α × List Char)} (reads : Local read)
    (otherwise : Local unsigned) (sign : Char) : Local (readBehind sign read unsigned) where
  append := by
    intro s rest behind a found ends
    cases s with
    | nil => contradiction
    | cons c s =>
      rw [readBehind] at found
      rw [List.cons_append, readBehind]
      split_ifs at found ⊢
      · exact reads.append found ends
      · exact otherwise.append found ends
  suffix := by
    intro s rest a found
    cases s with
    | nil => contradiction
    | cons c s =>
      rw [readBehind] at found
      split_ifs at found
      · exact (reads.suffix found).trans (List.suffix_cons c s)
      · exact otherwise.suffix found

end Readers

/-- The power of ten behind its mark: whether it is negative, and its digits. -/
def readPower (s : List Char) : Option ((Bool × List Char) × List Char) :=
  (readExponent s).map fun (down, digits, rest) => ((down, digits), rest)

/-- The digits of a power of ten whose sign is known. -/
def readPowerDigits (down : Bool) (s : List Char) : Option ((Bool × List Char) × List Char) :=
  (readDigits s).map fun (digits, rest) => ((down, digits), rest)

theorem readPower_eq :
    readPower = readBehind '-' (readPowerDigits true)
      (readBehind '+' (readPowerDigits false) (readPowerDigits false)) := by
  funext s
  cases s with
  | nil => rfl
  | cons c s =>
    rw [readBehind, readBehind]
    split_ifs with minus plus
    · subst minus
      exact Option.map_map ..
    · subst plus
      exact Option.map_map ..
    · rw [readPower, readExponent, Option.map_map]
      · rfl
      · exact fun _ same => minus (List.cons.inj same).1
      · exact fun _ same => plus (List.cons.inj same).1

theorem local_readPower : Local readPower := by
  have digits (down : Bool) : Local (readPowerDigits down) := local_readDigits.map fun digits => (down, digits)
  rw [readPower_eq]
  exact local_readBehind (digits true) (local_readBehind (digits false) (digits false) '+') '-'

/-- The literal of a whole part and a fraction, with the power that may follow. -/
def readBehindFraction (whole : List Char) (fraction : Option (List Char)) (s : List Char) :
    Option (Literal × List Char) :=
  (readMarked ['e', 'E'] readPower s).map fun (exponent, rest) => (⟨whole, fraction, exponent⟩, rest)

/-- The literal of a whole part, with the fraction and the power that may follow. -/
def readBehindWhole (whole s : List Char) : Option (Literal × List Char) :=
  (readMarked ['.'] readDigits s).bind fun (fraction, s) => readBehindFraction whole fraction s

theorem readBehindFraction_eq (whole : List Char) (fraction : Option (List Char)) (s : List Char) :
    (match s with
      | 'e' :: s => do
        let (exponent, s) ← (readExponent s).map fun (down, digits, rest) => (some (down, digits), rest)
        return ((⟨whole, fraction, exponent⟩ : Literal), s)
      | 'E' :: s => do
        let (exponent, s) ← (readExponent s).map fun (down, digits, rest) => (some (down, digits), rest)
        return ((⟨whole, fraction, exponent⟩ : Literal), s)
      | s => some (⟨whole, fraction, none⟩, s)) = readBehindFraction whole fraction s := by
  have marked {c : Char} (mark : c ∈ ['e', 'E']) (s : List Char) : readBehindFraction whole fraction (c :: s) =
      (readExponent s).map fun (down, digits, rest) => (⟨whole, fraction, some (down, digits)⟩, rest) := by
    rw [readBehindFraction, readMarked_of_mark mark, readPower, Option.map_map, Option.map_map]
    rfl
  split
  · rw [marked (by decide), Option.bind_eq_bind, Option.bind_map, Option.map_eq_bind]
    rfl
  · rw [marked (by decide), Option.bind_eq_bind, Option.bind_map, Option.map_eq_bind]
    rfl
  · rename_i small capital
    cases s with
    | nil => rfl
    | cons c s =>
      have noMark : c ∉ ['e', 'E'] := by
        intro mark
        rcases List.mem_pair.mp mark with rfl | rfl
        · exact small s rfl
        · exact capital s rfl
      rw [readBehindFraction, readMarked, if_neg noMark]
      rfl

/-- A literal is its whole part and what may stand behind it. -/
theorem readLiteral_eq (s : List Char) :
    readLiteral s = (readDigits s).bind fun (whole, s) =>
      if whole.length ≠ 1 && whole.head? == some '0' then none else readBehindWhole whole s := by
  unfold readLiteral
  -- The reader looks at the next character at each place, and what follows is written out in every case.
  refine Option.bind_congr fun (whole, s) _ => ?_
  dsimp only
  split
  · rfl
  · unfold readBehindWhole
    split
    · rename_i s
      rw [readMarked_of_mark (by decide), Option.bind_eq_bind]
      exact Option.bind_congr fun (fraction, s) _ => readBehindFraction_eq whole fraction s
    · rename_i noPoint
      have unmarked : readMarked ['.'] readDigits s = some (none, s) := by
        cases s with
        | nil => rfl
        | cons c s => exact if_neg fun mark => noPoint s (by rw [List.mem_singleton.mp mark])
      rw [unmarked]
      exact readBehindFraction_eq whole none s

theorem local_readLiteral : Local readLiteral := by
  have power (whole : List Char) (fraction : Option (List Char)) : Local (readBehindFraction whole fraction) :=
    (local_readMarked local_readPower (by decide)).map _
  have fraction (whole : List Char) : Local (readBehindWhole whole) :=
    (local_readMarked local_readDigits (by decide)).bind (power whole)
  have guarded (whole : List Char) :
      Local fun s => if whole.length ≠ 1 && whole.head? == some '0' then none else readBehindWhole whole s := by
    cases whole.length ≠ 1 && whole.head? == some '0' with
    | true => exact ⟨fun found _ => (nomatch found), fun found => (nomatch found)⟩
    | false => exact fraction whole
  rw [funext readLiteral_eq]
  exact local_readDigits.bind guarded

/-- The value that a literal gives: its number if it has one. -/
def valueOf : Option Number → Json
  | some n => .number n
  | none => .unreadable

theorem local_readNumber (minus : Bool) : Local (readNumber minus) := by
  have value := local_readLiteral.map fun literal => valueOf (literal.number? minus)
  exact value

theorem readNumber_of_not_isDigit {c : Char} (noDigit : c.isDigit = false) (minus : Bool) (s : List Char) :
    readNumber minus (c :: s) = none := by
  have noDigits : readDigits (c :: s) = none := by
    rw [readDigits, List.takeWhile_cons_of_neg (by simp [noDigit])]
  rw [readNumber, readLiteral_eq, noDigits]
  rfl

end Plumbline.Json
