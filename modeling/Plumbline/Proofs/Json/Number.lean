import Plumbline.Json.Printer
import Plumbline.Proofs.Json.Literal
import Mathlib.Data.List.TakeWhile
import Mathlib.Tactic.SplitIfs

namespace Plumbline.Json

/-- Whether the text of a number is read as that number. -/
def Number.ReadsBack (n : Number) : Prop := parse n.text = some (.number n)

section Spaceless

/-- A text without space. -/
def Spaceless (s : List Char) : Prop := ∀ c ∈ s, isSpace c = false

instance (s : List Char) : Decidable (Spaceless s) := List.decidableBAll (fun c => isSpace c = false) s

theorem Spaceless.append {s t : List Char} (first : Spaceless s) (second : Spaceless t) : Spaceless (s ++ t) :=
  fun c member => (List.mem_append.mp member).elim (first c) (second c)

theorem Spaceless.of_subset {s t : List Char} (whole : Spaceless t) (part : s ⊆ t) : Spaceless s :=
  fun c member => whole c (part member)

theorem not_isSpace_of_isDigit {c : Char} (digit : c.isDigit = true) : isSpace c = false := by
  by_contra space
  rw [Bool.not_eq_false, isSpace] at space
  simp only [Bool.or_eq_true, beq_iff_eq] at space
  rcases space with ((rfl | rfl) | rfl) | rfl <;> contradiction

theorem spaceless_natural (n : Nat) : Spaceless (toString n).toList := by
  intro c member
  rw [Nat.toString_eq_repr, Nat.toList_repr] at member
  exact not_isSpace_of_isDigit (Nat.isDigit_of_mem_toDigits (by decide) (by decide) member)

theorem spaceless_noughts (n : Nat) : Spaceless ("".pushn '0' n).toList := by
  rw [String.pushn_eq_repeat_push]
  induction n with
  | zero => exact fun c member => absurd member List.not_mem_nil
  | succ n ih =>
    rw [Nat.repeat, String.toList_push]
    exact ih.append (by decide)

theorem Spaceless.take {s : List Char} (all : Spaceless s) (n : Nat) : Spaceless (s.take n) :=
  fun c member => all c (List.mem_of_mem_take member)

theorem Spaceless.drop {s : List Char} (all : Spaceless s) (n : Nat) : Spaceless (s.drop n) :=
  fun c member => all c (List.mem_of_mem_drop member)

theorem spaceless_append {s t : String} (first : Spaceless s.toList) (second : Spaceless t.toList) :
    Spaceless (s ++ t).toList := by
  rw [String.toList_append]
  exact first.append second

theorem spaceless_ofList {s : List Char} (all : Spaceless s) : Spaceless (String.ofList s).toList := by
  rwa [String.toList_ofList]

theorem spaceless_ite {p : Prop} [Decidable p] {s t : String} (yes : Spaceless s.toList) (no : Spaceless t.toList) :
    Spaceless (if p then s else t).toList := by
  split
  · exact yes
  · exact no

theorem spaceless_doubleText (x : Float) : Spaceless (doubleText x).toList := by
  have digits := spaceless_natural (Decimal.Binary.ofFloat x).shortest.1
  have first (n : Nat) := spaceless_ofList (digits.take n)
  have rest (n : Nat) := spaceless_ofList (digits.drop n)
  have small (n : Nat) := spaceless_append (spaceless_append (s := "0.") (by decide) (spaceless_noughts n)) digits
  have whole (n : Nat) := spaceless_append (spaceless_append digits (spaceless_noughts n)) (t := ".0") (by decide)
  have broken (n : Nat) := spaceless_append (spaceless_append (first n) (t := ".") (by decide)) (rest n)
  -- A sign, then nought, a small number, a whole one, a broken one, or one in powers of ten.
  refine spaceless_append (spaceless_ite (by decide) (by decide)) (spaceless_ite (by decide)
    (spaceless_ite (small _) (spaceless_ite (spaceless_ite (whole _) (broken _)) ?_)))
  refine spaceless_append (spaceless_append (spaceless_append (first 1) ?_) ?_) (spaceless_natural _)
  · exact spaceless_ite (by decide) (spaceless_append (by decide) (rest 1))
  · exact spaceless_ite (by decide) (by decide)

/-- The text of a number has no space in it. -/
theorem Number.spaceless_text (n : Number) : Spaceless n.text.toList := by
  cases n with
  | natural n => exact spaceless_natural n
  | negative n => exact spaceless_append (by decide) (spaceless_natural n)
  | double x => exact spaceless_ite (by decide) (spaceless_doubleText x)

end Spaceless

/-- Reads a number with its sign. -/
def readSigned : List Char → Option (Json × List Char) := readBehind '-' (readNumber true) (readNumber false)

theorem local_readSigned : Local readSigned := local_readBehind (local_readNumber true) (local_readNumber false) '-'

theorem skipSpace_eq_self {s : List Char} (spaceless : Spaceless s) : skipSpace s = s := by
  cases s with
  | nil => rfl
  | cons c s => exact List.dropWhile_cons_of_neg (by rw [spaceless c List.mem_cons_self]; decide)

theorem readValue_of_readSigned {fuel depth : Nat} {s rest : List Char} {v : Json}
    (found : readSigned s = some (v, rest)) : readValue (fuel + 1) depth s = some (v, rest) := by
  cases s with
  | nil => contradiction
  | cons c s =>
    rw [readSigned, readBehind] at found
    split_ifs at found with minus
    · subst minus
      exact found
    · have digit : c.isDigit = true := by
        by_contra noDigit
        rw [readNumber_of_not_isDigit (Bool.of_not_eq_true noDigit)] at found
        contradiction
      have skipped : skipSpace (c :: s) = c :: s :=
        List.dropWhile_cons_of_neg (by rw [not_isSpace_of_isDigit digit]; decide)
      unfold readValue
      rw [skipped]
      split
      case h_5 => rw [List.head?_cons, Option.map_some, Option.getD_some, if_pos digit, found]
      all_goals
        rename_i same
        obtain ⟨rfl, rfl⟩ := List.cons.inj same
        exact absurd digit (by decide)

theorem readSigned_of_readValue {fuel depth : Nat} {s rest : List Char} {n : Number} (spaceless : Spaceless s)
    (found : readValue fuel depth s = some (.number n, rest)) : readSigned s = some (.number n, rest) := by
  cases fuel with
  | zero => contradiction
  | succ fuel =>
    unfold readValue at found
    rw [skipSpace_eq_self spaceless] at found
    -- Strings, containers and words give values of other kinds.
    split at found
    · obtain ⟨⟨text, behind⟩, _, same⟩ := Option.map_eq_some_iff.mp found
      cases text <;> cases same
    · exact found
    · split at found
      · split_ifs at found <;> cases found
      · obtain ⟨⟨items, behind⟩, _, same⟩ := Option.map_eq_some_iff.mp found
        dsimp only at same
        split_ifs at same <;> cases same
    · split at found
      · split_ifs at found <;> cases found
      · obtain ⟨⟨members, behind⟩, _, same⟩ := Option.map_eq_some_iff.mp found
        cases members with
        | none => cases same
        | some members =>
          dsimp only at same
          split_ifs at same <;> cases same
    · rename_i noMinus _ _
      cases s with
      | nil => contradiction
      | cons c s =>
        rw [List.head?_cons, Option.map_some, Option.getD_some] at found
        split_ifs at found with digit
        · have noSign : c ≠ '-' := fun minus => noMinus s (by rw [minus])
          rw [readSigned, readBehind, if_neg noSign, found]
        · unfold readWord at found
          split at found <;> cases found

namespace Number

theorem ReadsBack.readSigned_text {n : Number} (reads : n.ReadsBack) :
    readSigned n.text.toList = some (.number n, []) := by
  unfold ReadsBack parse at reads
  obtain ⟨⟨v, rest⟩, found, last⟩ := Option.bind_eq_some_iff.mp reads
  dsimp only at last
  split_ifs at last with nothing
  cases last
  have signed := readSigned_of_readValue n.spaceless_text found
  have blank : Spaceless rest := n.spaceless_text.of_subset (local_readSigned.suffix signed).subset
  rw [skipSpace_eq_self blank, List.isEmpty_iff] at nothing
  rw [signed, nothing]

/-- A number that is read back from its text is read back wherever its text stands. -/
theorem ReadsBack.readValue_append {n : Number} (reads : n.ReadsBack) {fuel depth : Nat} {rest : List Char}
    (ends : Ends rest) : readValue (fuel + 1) depth (n.text.toList ++ rest) = some (.number n, rest) :=
  readValue_of_readSigned (local_readSigned.append reads.readSigned_text ends)

theorem head?_toDigits_ne_nought {n : Nat} (positive : 0 < n) : (Nat.toDigits 10 n).head? ≠ some '0' := by
  induction n using Nat.strongRecOn with
  | ind n ih =>
    rw [Nat.toDigits_eq_if (by decide)]
    split
    · intro nought
      have zero := Nat.digitChar_eq_zero.mp (Option.some.inj nought)
      omega
    · rw [List.head?_append_of_ne_nil _ Nat.toDigits_ne_nil]
      exact ih (n / 10) (by omega) (by omega)

theorem foldl_digitValue (n : Nat) : (Nat.toDigits 10 n).foldl (fun n c => n * 10 + digitValue c) 0 = n := by
  have value : Nat.ofDigitChars 10 (Nat.toDigits 10 n) 0 = n := Nat.ofDigitChars_ten_toDigits
  simp only [Nat.ofDigitChars, Nat.mul_comm 10] at value
  exact value

theorem isDigit_of_mem_toDigits {n : Nat} {c : Char} : c ∈ Nat.toDigits 10 n → c.isDigit = true :=
  Nat.isDigit_of_mem_toDigits (by decide) (by decide)

theorem readDigits_toDigits (n : Nat) : readDigits (Nat.toDigits 10 n) = some (Nat.toDigits 10 n, []) := by
  have digits : ∀ c ∈ Nat.toDigits 10 n, c.isDigit = true := fun _ => isDigit_of_mem_toDigits
  unfold readDigits
  rw [List.takeWhile_eq_self_iff.mpr digits, List.dropWhile_eq_nil_iff.mpr digits]
  split
  · rename_i none'
    exact absurd none' Nat.toDigits_ne_nil
  · rfl

/-- Every whole number that fits 64 bits is read back. -/
theorem readsBack_natural {n : Nat} (fits : n ≤ maxNatural) : (Number.natural n).ReadsBack := by
  have text : (Number.natural n).text.toList = Nat.toDigits 10 n := by
    rw [Number.text, Nat.toString_eq_repr, Nat.toList_repr]
  have noLead : ((Nat.toDigits 10 n).length ≠ 1 && (Nat.toDigits 10 n).head? == some '0') = false := by
    rcases Nat.eq_zero_or_pos n with rfl | positive
    · rfl
    · rw [beq_false_of_ne (head?_toDigits_ne_nought positive), Bool.and_false]
  have literal : readLiteral (Nat.toDigits 10 n) = some (⟨Nat.toDigits 10 n, none, none⟩, []) := by
    rw [readLiteral_eq, readDigits_toDigits, Option.bind_some]
    dsimp only
    rw [noLead]
    rfl
  have value : (⟨Nat.toDigits 10 n, none, none⟩ : Literal).number? false = some (.natural n) := by
    unfold Literal.number?
    simp [foldl_digitValue, fits]
  have number : readNumber false (Nat.toDigits 10 n) = some (.number (.natural n), []) := by
    rw [readNumber, literal, Option.map_some]
    dsimp only
    rw [value]
  have signed : readSigned (Nat.toDigits 10 n) = some (.number (.natural n), []) := by
    cases spelled : Nat.toDigits 10 n with
    | nil => exact absurd spelled Nat.toDigits_ne_nil
    | cons c s =>
      have digit : c.isDigit = true := isDigit_of_mem_toDigits (spelled ▸ List.mem_cons_self)
      rw [spelled] at number
      have noSign : c ≠ '-' := by
        rintro rfl
        contradiction
      rw [readSigned, readBehind, if_neg noSign, number]
  unfold ReadsBack parse
  rw [text, readValue_of_readSigned signed]
  rfl

end Number

end Plumbline.Json
