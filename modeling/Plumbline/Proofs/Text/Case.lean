import Mathlib.Data.Nat.ModEq
import Plumbline.Proofs.Text.Class
import Plumbline.Text.Case

namespace Plumbline.Text

/-- What holds of the characters of ASCII one by one holds of all of them. -/
theorem ascii_forall {p : Char → Prop} (each : ∀ n < 128, p (Char.ofNat n)) {c : Char} (ascii : c.toNat < 128) : p c :=
  Char.ofNat_toNat c ▸ each c.toNat ascii

/-- Only a capital sigma reads its neighbours. -/
theorem lower_eq_flatMap {s : List Char} (plain : ∀ c ∈ s, c ≠ '\u03a3') : lower s = s.flatMap lowerChar := by
  have after (before : List Char) : lowerAfter before s = s.flatMap lowerChar := by
    induction s generalizing before with
    | nil => rfl
    | cons c s ih =>
      obtain ⟨here, plain⟩ := List.forall_mem_cons.mp plain
      rw [lowerAfter, if_neg here, ih plain, List.flatMap_cons]
  exact after []

theorem lowerChar_of_isBlank {c : Char} (blank : isBlank c = true) : lowerChar c = [c] := by
  have all : ∀ r ∈ blankRanges, ∀ n ∈ List.range' r.1 (r.2 - r.1 + 1), lowerChar (Char.ofNat n) = [Char.ofNat n] := by
    decide +kernel
  obtain ⟨r, member, above, below⟩ := Ranges.contains_iff.mp blank
  exact Char.ofNat_toNat c ▸ all r member c.toNat (List.mem_range'_1.mpr (by omega))

theorem alphabeticRanges_bounds : ∀ r ∈ alphabeticRanges,
    0 < r.1 ∧ (r.1 < 128 → 65 ≤ r.1 ∧ r.2 ≤ 90 ∨ 97 ≤ r.1 ∧ r.2 ≤ 122) ∧
      (r.2 < 0xd800 ∨ 0xdfff < r.1 ∧ r.2 < 0x110000) := by
  decide +kernel

namespace CaseRun

def target (run : CaseRun) (n : Nat) : Nat := (n + run.shift).toNat

def Covers (run : CaseRun) (n : Nat) : Prop := run.first ≤ n ∧ n ≤ run.last ∧ run.step ∣ n - run.first

/-- Whether a run moves its code points past those of another one, or between them. -/
def misses (run other : CaseRun) : Bool :=
  Nat.blt (run.target run.last) other.first || Nat.blt other.last (run.target run.first) ||
    (Nat.beq run.first run.last || Nat.beq (run.step % other.step) 0) &&
      !Nat.beq (run.target run.first % other.step) (other.first % other.step)

variable {run other : CaseRun} {n : Nat} {c : Char}

theorem image?_eq_some_iff : run.image? n = some c ↔ run.Covers n ∧ c = Char.ofNat (run.target n) := by
  have covers : (run.first ≤ n && n ≤ run.last && (n - run.first) % run.step == 0) = true ↔ run.Covers n := by
    simp only [Bool.and_eq_true, decide_eq_true_eq, beq_iff_eq, Covers, Nat.dvd_iff_mod_eq_zero, and_assoc]
  rw [image?]
  split
  · rename_i here
    rw [and_iff_right (covers.mp here), Option.some.injEq, eq_comm, target]
  · rename_i apart
    exact iff_of_false (Option.some_ne_none _).symm fun told => apart (covers.mpr told.1)

theorem image?_eq_none_iff : run.image? n = none ↔ ¬ run.Covers n := by
  rw [Option.eq_none_iff_forall_ne_some]
  constructor
  · exact fun none covers => none _ (image?_eq_some_iff.mpr ⟨covers, rfl⟩)
  · exact fun apart c told => apart (image?_eq_some_iff.mp told).1

theorem Covers.target_eq (covers : run.Covers n) (positive : 0 < run.target run.first) :
    run.target n = run.target run.first + (n - run.first) ∧ run.target n ≤ run.target run.last := by
  obtain ⟨above, below, _⟩ := covers
  unfold target at positive ⊢
  omega

theorem Covers.not_covers_of_misses (covers : run.Covers n) (positive : 0 < run.target run.first)
    (apart : run.misses other = true) : ¬ other.Covers (run.target n) := by
  obtain ⟨place, most⟩ := covers.target_eq positive
  rintro ⟨above, below, steps⟩
  simp only [misses, Bool.or_eq_true, Bool.and_eq_true, Bool.not_eq_true', Bool.eq_false_iff, ne_eq, Nat.blt_eq,
    Nat.beq_eq] at apart
  rcases apart with (before | behind) | ⟨even, odd⟩
  · omega
  · omega
  · have whole : other.step ∣ n - run.first := by
      obtain ⟨lower, upper, whole⟩ := covers
      rcases even with single | even
      · have none : n - run.first = 0 := by omega
        rw [none]
        exact Nat.dvd_zero _
      · exact (Nat.dvd_of_mod_eq_zero even).trans whole
    refine odd ?_
    have here : run.target run.first ≡ run.target n [MOD other.step] :=
      (Nat.modEq_iff_dvd' (by omega)).mpr (by rwa [place, Nat.add_sub_cancel_left])
    exact here.trans ((Nat.modEq_iff_dvd' above).mpr steps).symm

end CaseRun

/-- The runs of letters that have another lower case: those with one counterpart, and the capital i with a dot. -/
def movedRuns : List CaseRun := ⟨0x130, 0x130, 1, 0⟩ :: lowerRuns

theorem lowerChar_of_not_covers {c : Char} (apart : ∀ run ∈ movedRuns, ¬ run.Covers c.toNat) : lowerChar c = [c] := by
  rw [movedRuns, List.forall_mem_cons] at apart
  obtain ⟨dotted, apart⟩ := apart
  unfold lowerChar
  split
  · have small : ¬ (65 ≤ c.toNat ∧ c.toNat ≤ 90) := fun capital =>
      apart ⟨65, 90, 1, 32⟩ List.mem_cons_self ⟨capital.1, capital.2, Nat.one_dvd _⟩
    have stays : c.toLower = c := dif_neg fun capital : c.val ≥ 'A'.val ∧ c.val ≤ 'Z'.val =>
      small ⟨UInt32.le_iff_toNat_le.mp capital.1, UInt32.le_iff_toNat_le.mp capital.2⟩
    rw [stays]
  · split
    · rename_i same
      exact absurd ⟨by rw [same]; decide, by rw [same]; decide, Nat.one_dvd _⟩ dotted
    · have none : lowerRuns.findSome? (·.image? c.toNat) = none :=
        List.findSome?_eq_none_iff.mpr fun run listed => CaseRun.image?_eq_none_iff.mpr (apart run listed)
      rw [none, Option.getD_none]

/-- Every run moves its letters within one range of letters. -/
theorem lowerRuns_alphabetic : lowerRuns.all (fun run => alphabeticRanges.any fun r =>
    Nat.ble r.1 (run.target run.first) && Nat.ble (run.target run.last) r.2) = true := by
  decide +kernel

/-- No run moves a letter to where another run would move it on. -/
theorem lowerRuns_misses : lowerRuns.all (fun run => movedRuns.all run.misses) = true := by decide +kernel

/-- A letter or a digit that is its own lower case. -/
structure IsSettled (c : Char) : Prop where
  letter : isAlphanumeric c = true
  stays : lowerChar c = [c]

theorem isSettled_of_image? {run : CaseRun} (listed : run ∈ lowerRuns) {n : Nat} {c : Char}
    (moved : run.image? n = some c) : IsSettled c := by
  obtain ⟨covers, rfl⟩ := CaseRun.image?_eq_some_iff.mp moved
  obtain ⟨r, ranged, bounds⟩ := List.any_eq_true.mp (List.all_eq_true.mp lowerRuns_alphabetic run listed)
  rw [Bool.and_eq_true, Nat.ble_eq, Nat.ble_eq] at bounds
  obtain ⟨positive, ascii, valid⟩ := alphabeticRanges_bounds r ranged
  obtain ⟨place, most⟩ := covers.target_eq (by omega)
  have code : (Char.ofNat (run.target n)).toNat = run.target n := by
    have isValid : (run.target n).isValidChar := by unfold Nat.isValidChar; omega
    rw [Char.ofNat, dif_pos isValid]
    rfl
  constructor
  · unfold isAlphanumeric
    rw [code]
    split
    · refine isAlphanum_iff.mpr ?_
      rw [code]
      omega
    · rw [Bool.or_eq_true]
      exact .inl (Ranges.contains_iff.mpr ⟨r, ranged, by omega, by omega⟩)
  · refine lowerChar_of_not_covers fun other moves => ?_
    rw [code]
    exact covers.not_covers_of_misses (by omega)
      (List.all_eq_true.mp (List.all_eq_true.mp lowerRuns_misses run listed) other moves)

/-- The lower case of a letter or a digit is one that is its own lower case, except for the capital i with a dot. -/
theorem exists_isSettled {c : Char} (letter : isAlphanumeric c = true) (undotted : c ≠ '\u0130') :
    ∃ d, lowerChar c = [d] ∧ IsSettled d := by
  by_cases ascii : c.toNat < 128
  · have lowered : lowerChar c = [c.toLower] := if_pos ascii
    have settled : isAlphanumeric c.toLower = true ∧ lowerChar c.toLower = [c.toLower] :=
      ascii_forall (p := fun c => isAlphanumeric c = true → isAlphanumeric c.toLower = true ∧ lowerChar c.toLower = [c.toLower])
        (by decide +kernel) ascii letter
    exact ⟨c.toLower, lowered, settled.1, settled.2⟩
  · have lowered : lowerChar c = [(lowerRuns.findSome? (·.image? c.toNat)).getD c] := by
      rw [lowerChar, if_neg ascii, if_neg undotted]
    cases moved : lowerRuns.findSome? (·.image? c.toNat) with
    | none =>
      rw [moved, Option.getD_none] at lowered
      exact ⟨c, lowered, letter, lowered⟩
    | some d =>
      rw [moved, Option.getD_some] at lowered
      obtain ⟨run, listed, image⟩ := List.exists_of_findSome?_eq_some moved
      exact ⟨d, lowered, isSettled_of_image? listed image⟩

end Plumbline.Text
