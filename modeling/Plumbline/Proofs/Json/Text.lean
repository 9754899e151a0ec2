import Plumbline.Json.Printer
import Plumbline.Json.Reader
import Mathlib.Tactic.SplitIfs

namespace Plumbline.Json

theorem hexValue?_hexDigit : ∀ {n : Nat}, n < 16 → hexValue? (hexDigit n) = some n := by
  decide

theorem hex4?_of_control {c : Char} (control : c.toNat < 32) (s : List Char) :
    hex4? ('0' :: '0' :: hexDigit (c.toNat / 16) :: hexDigit (c.toNat % 16) :: s) = some (c.toNat, s) := by
  have nought : hexValue? '0' = some 0 := by decide
  have high : hexValue? (hexDigit (c.toNat / 16)) = some (c.toNat / 16) := hexValue?_hexDigit (by omega)
  have low : hexValue? (hexDigit (c.toNat % 16)) = some (c.toNat % 16) := hexValue?_hexDigit (by omega)
  have whole : c.toNat / 16 * 16 + c.toNat % 16 = c.toNat := Nat.div_add_mod' c.toNat 16
  simp only [hex4?, nought, high, low, Option.bind_eq_bind, Option.bind_some, Option.pure_def, Nat.zero_mul,
    Nat.zero_add, whole]

theorem readEscape_of_control {c : Char} (control : c.toNat < 32) (s : List Char) :
    readEscape ('u' :: '0' :: '0' :: hexDigit (c.toNat / 16) :: hexDigit (c.toNat % 16) :: s) = some (.whole c, s) := by
  have noHigh : ¬ (0xD800 ≤ c.toNat && c.toNat ≤ 0xDBFF) = true := by simp; omega
  have noLow : ¬ (0xDC00 ≤ c.toNat && c.toNat ≤ 0xDFFF) = true := by simp; omega
  rw [readEscape, hex4?_of_control control]
  simp only [Option.bind_eq_bind, Option.bind_some]
  rw [if_neg noHigh, if_neg noLow, Char.ofNat_toNat]
  rfl

theorem escapedChar_ne_nil (c : Char) : escapedChar c ≠ [] := by
  unfold escapedChar
  split_ifs <;> exact List.cons_ne_nil _ _

/-- Reading a string takes a character from what stands for it. -/
theorem readString_escapedChar (c : Char) (fuel : Nat) (read : List Char) (complete : Bool) (s : List Char) :
    readString (fuel + 1) read complete (escapedChar c ++ s) = readString fuel (c :: read) complete s := by
  unfold escapedChar
  split_ifs with quote backslash bell feed line return' tab control
  · rw [quote]; rfl
  · rw [backslash]; rfl
  · rw [bell]; rfl
  · rw [feed]; rfl
  · rw [line]; rfl
  · rw [return']; rfl
  · rw [tab]; rfl
  · have escape := readEscape_of_control control s
    simp only [List.cons_append, List.nil_append, readString, escape]
    rfl
  · simp only [List.cons_append, List.nil_append, readString, quote, backslash, control, if_false]

theorem readString_flatMap {fuel : Nat} {t : List Char} (enough : t.length < fuel) (read s : List Char) :
    readString fuel read true (t.flatMap escapedChar ++ '\x22' :: s) =
      some (some (String.ofList (read.reverse ++ t)), s) := by
  induction t generalizing fuel read with
  | nil =>
    obtain ⟨left, rfl⟩ := Nat.exists_eq_add_of_lt enough
    rw [List.append_nil]
    rfl
  | cons c t ih =>
    obtain ⟨left, rfl⟩ : ∃ left, fuel = left + 1 := ⟨fuel - 1, by omega⟩
    rw [List.flatMap_cons, List.append_assoc, readString_escapedChar, ih (Nat.lt_of_succ_lt_succ enough)]
    rw [List.reverse_cons, List.append_assoc, List.singleton_append]

theorem length_le_length_flatMap_escapedChar (t : List Char) : t.length ≤ (t.flatMap escapedChar).length := by
  induction t with
  | nil => exact Nat.le_refl _
  | cons c t ih =>
    have some' := List.length_pos_iff.mpr (escapedChar_ne_nil c)
    rw [List.flatMap_cons, List.length_append, List.length_cons]
    omega

theorem stringText_append (s : String) (rest : List Char) :
    stringText s ++ rest = '\x22' :: (s.toList.flatMap escapedChar ++ '\x22' :: rest) := by
  simp only [stringText, List.cons_append, List.append_assoc, List.nil_append]

/-- Every string is read back from its text. -/
theorem readString_stringText (s : String) (rest : List Char) :
    readString ((s.toList.flatMap escapedChar ++ '\x22' :: rest).length + 1) [] true
      (s.toList.flatMap escapedChar ++ '\x22' :: rest) = some (some s, rest) := by
  have short := length_le_length_flatMap_escapedChar s.toList
  rw [readString_flatMap (by rw [List.length_append]; omega), List.reverse_nil, List.nil_append, String.ofList_toList]

end Plumbline.Json
