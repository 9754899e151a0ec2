import Mathlib.Data.List.TakeWhile
import Plumbline.Text.Search

namespace Plumbline.Text

section Split

variable {isSeparator : Char → Bool} {s piece : List Char}

theorem split_of_none (none : ∀ c ∈ s, isSeparator c = false) : split isSeparator s = [s] := by
  induction s with
  | nil => rfl
  | cons c s ih =>
    obtain ⟨here, none⟩ := List.forall_mem_cons.mp none
    rw [split, if_neg (Bool.eq_false_iff.mp here), ih none]

theorem split_ne_nil (s : List Char) : split isSeparator s ≠ [] := by
  cases s with
  | nil => exact List.cons_ne_nil [] []
  | cons c s =>
    rw [split]
    split
    · exact List.cons_ne_nil _ _
    · split <;> exact List.cons_ne_nil _ _

theorem split_append (s : List Char) {c : Char} (rest : List Char) (here : isSeparator c = true) :
    split isSeparator (s ++ c :: rest) = split isSeparator s ++ split isSeparator rest := by
  induction s with
  | nil => exact if_pos here
  | cons d s ih =>
    rw [List.cons_append, split, split, ih]
    split
    · rfl
    · cases halves : split isSeparator s with
      | nil => exact absurd halves (split_ne_nil s)
      | cons => rfl

theorem of_mem_split (member : piece ∈ split isSeparator s) {c : Char} (inside : c ∈ piece) :
    c ∈ s ∧ isSeparator c = false := by
  induction s generalizing piece with
  | nil =>
    rw [List.mem_singleton.mp member] at inside
    exact absurd inside List.not_mem_nil
  | cons d s ih =>
    have later {piece : List Char} (member : piece ∈ split isSeparator s) (inside : c ∈ piece) :
        c ∈ d :: s ∧ isSeparator c = false := (ih member inside).imp_left (List.mem_cons_of_mem d)
    rw [split] at member
    split at member
    · rcases List.mem_cons.mp member with rfl | behind
      · exact absurd inside List.not_mem_nil
      · exact later behind inside
    · rename_i first
      have first : isSeparator d = false := Bool.eq_false_iff.mpr first
      split at member
      · rw [List.mem_singleton.mp member, List.mem_singleton] at inside
        rw [inside]
        exact ⟨List.mem_cons_self, first⟩
      · rename_i piece' pieces halves
        rcases List.mem_cons.mp member with rfl | behind
        · rcases List.mem_cons.mp inside with rfl | inside
          · exact ⟨List.mem_cons_self, first⟩
          · exact later (halves ▸ List.mem_cons_self) inside
        · exact later (halves ▸ List.mem_cons_of_mem piece' behind) inside

/-- Pieces that hold no separator are read back from behind the separators between them. -/
theorem split_intercalate {isSeparator : Char → Bool} {separator : Char} {pieces : List (List Char)}
    (separates : isSeparator separator = true) (nonempty : pieces ≠ [])
    (apart : ∀ piece ∈ pieces, ∀ c ∈ piece, isSeparator c = false) :
    split isSeparator ([separator].intercalate pieces) = pieces := by
  induction pieces with
  | nil => exact absurd rfl nonempty
  | cons piece rest ih =>
    obtain ⟨here, apart⟩ := List.forall_mem_cons.mp apart
    cases rest with
    | nil => rw [List.intercalate_singleton, split_of_none here]
    | cons next rest =>
      rw [List.intercalate_cons_cons, List.append_assoc, List.singleton_append, split_append _ _ separates,
        split_of_none here, ih (List.cons_ne_nil _ _) apart, List.singleton_append]

theorem head?_split (s : List Char) : (split isSeparator s).head? = some (s.takeWhile fun c => !isSeparator c) := by
  induction s with
  | nil => rfl
  | cons c s ih =>
    rw [split]
    by_cases here : isSeparator c = true
    · rw [if_pos here, List.takeWhile_cons_of_neg (by simp [here]), List.head?_cons]
    · rw [if_neg here, List.takeWhile_cons_of_pos (by simp [here])]
      cases halves : split isSeparator s with
      | nil => exact absurd halves (split_ne_nil s)
      | cons piece pieces =>
        rw [halves, List.head?_cons, Option.some.injEq] at ih
        rw [List.head?_cons, ih]

section Pieces

variable {pieces : List (List Char)} (halves : split isSeparator s = piece :: pieces)

include halves

/-- What holds no separator only lengthens the first piece of what stands behind it. -/
theorem split_append_of_none {lead : List Char} (none : ∀ c ∈ lead, isSeparator c = false) :
    split isSeparator (lead ++ s) = (lead ++ piece) :: pieces := by
  induction lead with
  | nil => exact halves
  | cons c lead ih =>
    obtain ⟨here, none⟩ := List.forall_mem_cons.mp none
    rw [List.cons_append, split, if_neg (Bool.eq_false_iff.mp here), ih none, List.cons_append]

/-- Behind pieces with separators between, a text goes on with the last of them. -/
theorem split_intercalate_append {separator : Char} (separates : isSeparator separator = true)
    {before : List (List Char)} {last : List Char}
    (apart : ∀ part ∈ before ++ [last], ∀ c ∈ part, isSeparator c = false) :
    split isSeparator ([separator].intercalate (before ++ [last]) ++ s) = before ++ (last ++ piece) :: pieces := by
  induction before with
  | nil =>
    rw [List.nil_append, List.intercalate_singleton]
    exact split_append_of_none halves (apart last List.mem_cons_self)
  | cons part before ih =>
    obtain ⟨here, apart⟩ := List.forall_mem_cons.mp apart
    obtain ⟨next, rest, more⟩ := List.exists_cons_of_ne_nil (List.append_ne_nil_of_right_ne_nil before
      (List.cons_ne_nil last []))
    have later := ih apart
    rw [more] at later
    rw [List.cons_append, more, List.intercalate_cons_cons, List.append_assoc, List.append_assoc, List.singleton_append,
      split_append _ _ separates, split_of_none here, later]
    rfl

end Pieces

end Split

theorem forall_mem_intercalate {p : Char → Prop} {separator : Char} {pieces : List (List Char)} (between : p separator)
    (inside : ∀ piece ∈ pieces, ∀ c ∈ piece, p c) : ∀ c ∈ [separator].intercalate pieces, p c := by
  induction pieces with
  | nil => exact fun c member => absurd member List.not_mem_nil
  | cons piece rest ih =>
    obtain ⟨here, inside⟩ := List.forall_mem_cons.mp inside
    cases rest with
    | nil => rwa [List.intercalate_singleton]
    | cons next rest =>
      rw [List.intercalate_cons_cons, List.forall_mem_append, List.forall_mem_append, List.forall_mem_singleton]
      exact ⟨⟨here, between⟩, ih inside⟩

theorem some?_eq_none {p : Char → Bool} {s : List Char} (first : ∀ c ∈ s.head?, p c = false) : some? p s = none := by
  cases s with
  | nil => rfl
  | cons c s => rw [some?, List.takeWhile_cons_of_neg (by simp [first c rfl])]

theorem some?_eq_some {p : Char → Bool} {s lead rest : List Char} (reads : some? p s = some (lead, rest)) :
    s = lead ++ rest ∧ lead ≠ [] ∧ ∀ c ∈ lead, p c = true := by
  have whole : s.takeWhile p ++ s.dropWhile p = s := List.takeWhile_append_dropWhile
  have satisfied : ∀ c ∈ s.takeWhile p, p c = true := fun c member => List.mem_takeWhile_imp member
  unfold some? at reads
  split at reads
  · contradiction
  · rename_i c front taken
    obtain ⟨rfl, rfl⟩ := Prod.mk.inj (Option.some.inj reads)
    rw [taken] at whole satisfied
    exact ⟨whole.symm, List.cons_ne_nil c front, satisfied⟩

theorem not_head_of_some? {p : Char → Bool} {s lead rest : List Char} (reads : some? p s = some (lead, rest)) :
    ∀ c ∈ rest.head?, p c = false := by
  unfold some? at reads
  split at reads
  · contradiction
  · obtain ⟨_, rfl⟩ := Prod.mk.inj (Option.some.inj reads)
    intro c first
    have stops := List.head?_dropWhile_not p s
    rw [Option.mem_def.mp first] at stops
    simpa using stops

theorem some?_append {p : Char → Bool} {lead rest : List Char} (nonempty : lead ≠ []) (all : ∀ c ∈ lead, p c = true)
    (stops : ∀ c ∈ rest.head?, p c = false) : some? p (lead ++ rest) = some (lead, rest) := by
  have nothing : rest.takeWhile p = [] ∧ rest.dropWhile p = rest := by
    cases rest with
    | nil => exact ⟨rfl, rfl⟩
    | cons c rest => simp [stops c rfl]
  have taken : (lead ++ rest).takeWhile p = lead := by
    rw [List.takeWhile_append_of_pos all, nothing.1, List.append_nil]
  have dropped : (lead ++ rest).dropWhile p = rest := by rw [List.dropWhile_append_of_pos all, nothing.2]
  obtain ⟨c, lead, rfl⟩ := List.exists_cons_of_ne_nil nonempty
  rw [some?, taken]
  exact congrArg (fun behind => some (c :: lead, behind)) dropped

theorem some?_eq_some_iff {p : Char → Bool} {s lead rest : List Char} : some? p s = some (lead, rest) ↔
    s = lead ++ rest ∧ lead ≠ [] ∧ (∀ c ∈ lead, p c = true) ∧ ∀ c ∈ rest.head?, p c = false := by
  constructor
  · intro reads
    obtain ⟨whole, nonempty, all⟩ := some?_eq_some reads
    exact ⟨whole, nonempty, all, not_head_of_some? reads⟩
  · rintro ⟨rfl, nonempty, all, stops⟩
    exact some?_append nonempty all stops

theorem suffix_of_some? {p : Char → Bool} {s lead rest : List Char} (reads : some? p s = some (lead, rest)) :
    rest <:+ s := ⟨lead, (some?_eq_some reads).1.symm⟩

theorem suffix_of_after? {lead s rest : List Char} (reads : after? lead s = some rest) : rest <:+ s :=
  ⟨lead, (after?_eq_some_iff.mp reads).symm⟩

theorem after?_singleton (c : Char) (s : List Char) : after? [c] (c :: s) = some s := after?_append [c] s

theorem after?_concat (lead : List Char) (a b : Char) (s : List Char) :
    after? (lead ++ [a]) (lead ++ b :: s) = if a = b then some s else none := by
  induction lead with
  | nil => rfl
  | cons c lead ih => rw [List.cons_append, List.cons_append, after?, if_pos rfl, ih]

theorem cut?_of_head_not_mem {c : Char} {needle before : List Char} (rest : List Char) (fresh : c ∉ before) :
    cut? (c :: needle) (before ++ (c :: needle ++ rest)) = some (before, rest) := by
  induction before with
  | nil =>
    have here := after?_append (c :: needle) rest
    rw [List.nil_append, List.cons_append, cut?, ← List.cons_append, here]
  | cons d before ih =>
    rw [List.mem_cons, not_or] at fresh
    have apart : after? (c :: needle) (d :: (before ++ (c :: needle ++ rest))) = none := if_neg fresh.1
    rw [List.cons_append, cut?, apart, ih fresh.2]
    rfl

theorem lastBefore_append (lead rest : List Char) : lastBefore (lead ++ rest) rest = lead.getLast? := by
  simp [lastBefore]

/-- Whether a reader leaves an end of what it reads. -/
def Reader.LeavesEnd {α : Type} (reader : Reader α) : Prop :=
  ∀ {before s found rest}, reader before s = some (found, rest) → rest <:+ s

theorem getLast?_cons_or (c : Char) (lead : List Char) (before : Option Char) :
    (c :: lead).getLast?.or before = lead.getLast?.or (some c) := by
  rw [List.getLast?_cons, Option.some_or, Option.or_some]

/-- Everything that is found was read somewhere in the text, behind the character that stands there. -/
theorem mem_findAll {α : Type} {reader : Reader α} (leavesEnd : reader.LeavesEnd) {before : Option Char}
    {s : List Char} {found : α} (member : found ∈ findAll reader before s) :
    ∃ lead tail rest, s = lead ++ tail ∧ reader (lead.getLast?.or before) tail = some (found, rest) := by
  fun_induction findAll reader before s with
  | case1 => exact absurd member List.not_mem_nil
  | case2 before c s _ ih =>
    obtain ⟨lead, tail, rest, rfl, reads⟩ := ih member
    exact ⟨c :: lead, tail, rest, rfl, (getLast?_cons_or c lead before).symm ▸ reads⟩
  | case3 before c s first rest reads shorter ih =>
    rcases List.mem_cons.mp member with rfl | later
    · exact ⟨[], c :: s, rest, rfl, reads⟩
    · obtain ⟨skipped, split⟩ := leavesEnd reads
      obtain ⟨lead, tail, rest', rfl, readsLater⟩ := ih later
      have nonempty : skipped ≠ [] := by
        rintro rfl
        have lengths := congrArg List.length split
        simp only [List.nil_append, List.length_cons] at lengths
        omega
      refine ⟨skipped ++ lead, tail, rest', by rw [← split, List.append_assoc], ?_⟩
      rw [← split, lastBefore_append] at readsLater
      rw [List.getLast?_append, Option.or_assoc, List.getLast?_eq_some_getLast nonempty, Option.some_or]
      rwa [List.getLast?_eq_some_getLast nonempty] at readsLater
  | case4 before c s first rest reads _ ih =>
    obtain ⟨lead, tail, rest', rfl, readsLater⟩ := ih member
    exact ⟨c :: lead, tail, rest', rfl, (getLast?_cons_or c lead before).symm ▸ readsLater⟩

/-- A search passes over places where nothing can be read. -/
theorem findAll_of_fails {α : Type} {reader : Reader α} {before : Option Char} {lead rest : List Char}
    (fails : ∀ first second, lead = first ++ second → second ≠ [] →
      reader (first.getLast?.or before) (second ++ rest) = none) :
    findAll reader before (lead ++ rest) = findAll reader (lead.getLast?.or before) rest := by
  induction lead generalizing before with
  | nil => rfl
  | cons c lead ih =>
    have here : reader before (c :: (lead ++ rest)) = none := fails [] (c :: lead) rfl (List.cons_ne_nil c lead)
    rw [List.cons_append, findAll, here, getLast?_cons_or]
    refine ih fun first second split nonempty => ?_
    rw [← getLast?_cons_or]
    exact fails (c :: first) second (by rw [split, List.cons_append]) nonempty

theorem findAll_of_reads {α : Type} {reader : Reader α} {before : Option Char} {lead rest : List Char} {found : α}
    (nonempty : lead ≠ []) (reads : reader before (lead ++ rest) = some (found, rest)) :
    findAll reader before (lead ++ rest) = found :: findAll reader lead.getLast? rest := by
  obtain ⟨c, lead, rfl⟩ := List.exists_cons_of_ne_nil nonempty
  have shorter : rest.length < (lead ++ rest).length + 1 := by
    rw [List.length_append]
    omega
  have behind : lastBefore (c :: (lead ++ rest)) rest = (c :: lead).getLast? := lastBefore_append (c :: lead) rest
  rw [List.cons_append] at reads ⊢
  rw [findAll, reads]
  dsimp only
  rw [if_pos shorter, behind]

/-- No find that begins in `lead` takes a part of what stands behind it. -/
def Reader.Spares {α : Type} (reader : Reader α) (before : Option Char) (lead tail : List Char) : Prop :=
  ∀ first second, lead = first ++ second → second ≠ [] → ∀ {other behind},
    reader (first.getLast?.or before) (second ++ tail) = some (other, behind) → tail <:+ behind

theorem getLast?_append_or {skipped : List Char} (nonempty : skipped ≠ []) (lead : List Char) (before : Option Char) :
    (skipped ++ lead).getLast?.or before = lead.getLast?.or skipped.getLast? := by
  rw [List.getLast?_append, Option.or_assoc, List.getLast?_eq_some_getLast nonempty, Option.some_or]

theorem Reader.Spares.drop {α : Type} {reader : Reader α} {before : Option Char} {skipped lead tail : List Char}
    (spares : reader.Spares before (skipped ++ lead) tail) (nonempty : skipped ≠ []) :
    reader.Spares skipped.getLast? lead tail := by
  intro first second halves inside other behind reads
  rw [← getLast?_append_or nonempty] at reads
  exact spares (skipped ++ first) second (by rw [halves, List.append_assoc]) inside reads

/-- What can be read at a place is found unless an earlier find takes a part of it. -/
theorem mem_findAll_of_spares {α : Type} {reader : Reader α} (leavesEnd : reader.LeavesEnd) {before : Option Char}
    {lead tail rest : List Char} {found : α} (reads : reader (lead.getLast?.or before) tail = some (found, rest))
    (takes : rest.length < tail.length) (spares : reader.Spares before lead tail) :
    found ∈ findAll reader before (lead ++ tail) := by
  generalize whole : lead ++ tail = s
  fun_induction findAll reader before s generalizing lead with
  | case1 =>
    obtain ⟨rfl, rfl⟩ := List.append_eq_nil_iff.mp whole
    exact absurd takes (Nat.not_lt_zero _)
  | case2 before c s fails ih =>
    cases lead with
    | nil =>
      obtain rfl : tail = c :: s := whole
      rw [List.getLast?_nil, Option.none_or, fails] at reads
      contradiction
    | cons d lead =>
      obtain ⟨rfl, others⟩ := List.cons.inj whole
      exact ih (getLast?_cons_or d lead before ▸ reads) (spares.drop (List.cons_ne_nil _ [])) others
  | case3 before c s first rest' readsHere shorter ih =>
    cases lead with
    | nil =>
      obtain rfl : tail = c :: s := whole
      rw [List.getLast?_nil, Option.none_or, readsHere] at reads
      obtain ⟨rfl, _⟩ := Prod.mk.inj (Option.some.inj reads)
      exact List.mem_cons_self
    | cons d lead =>
      rw [← whole] at readsHere
      obtain ⟨more, behind⟩ := spares [] (d :: lead) rfl (List.cons_ne_nil d lead) readsHere
      obtain ⟨skipped, split⟩ := leavesEnd readsHere
      rw [← behind, ← List.append_assoc] at split
      have halves : skipped ++ more = d :: lead := List.append_cancel_right split
      have nonempty : skipped ≠ [] := by
        rintro rfl
        have lengths := congrArg List.length (behind.symm.trans (congrArg (· ++ tail) halves))
        rw [whole, List.length_cons] at lengths
        omega
      rw [← whole, ← halves, ← behind, List.append_assoc, lastBefore_append] at ih
      rw [← halves] at reads spares
      rw [getLast?_append_or nonempty] at reads
      rw [← whole, ← halves, ← behind, List.append_assoc, lastBefore_append]
      exact List.mem_cons_of_mem first (ih reads (spares.drop nonempty) rfl)
  | case4 before c s first rest' readsHere long ih =>
    cases lead with
    | nil =>
      obtain rfl : tail = c :: s := whole
      rw [List.getLast?_nil, Option.none_or, readsHere] at reads
      obtain ⟨_, rfl⟩ := Prod.mk.inj (Option.some.inj reads)
      exact absurd takes long
    | cons d lead =>
      obtain ⟨rfl, others⟩ := List.cons.inj whole
      exact ih (getLast?_cons_or d lead before ▸ reads) (spares.drop (List.cons_ne_nil _ [])) others

end Plumbline.Text
