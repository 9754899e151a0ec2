import Mathlib.Data.List.Nodup
import Plumbline.Distinct

namespace Plumbline.Distinct

variable {α : Type} [BEq α]

theorem addAll_cons (items : List α) (a : α) (more : List α) :
    addAll items (a :: more) = addAll (add items a) more := rfl

variable [LawfulBEq α] {items more : List α} {a b : α}

theorem add_of_mem (present : a ∈ items) : add items a = items := if_pos (List.contains_iff_mem.mpr present)

theorem add_of_not_mem (fresh : a ∉ items) : add items a = items ++ [a] := if_neg (mt List.contains_iff_mem.mp fresh)

theorem mem_add : b ∈ add items a ↔ b ∈ items ∨ b = a := by
  by_cases present : a ∈ items
  · rw [add_of_mem present]
    exact ⟨Or.inl, fun either => either.elim id fun same => same ▸ present⟩
  · rw [add_of_not_mem present, List.mem_append, List.mem_singleton]

theorem mem_addAll : b ∈ addAll items more ↔ b ∈ items ∨ b ∈ more := by
  induction more generalizing items with
  | nil => simp [addAll]
  | cons a more ih => rw [addAll_cons, ih, mem_add, List.mem_cons, or_assoc]

theorem nodup_add (distinct : items.Nodup) (a : α) : (add items a).Nodup := by
  by_cases present : a ∈ items
  · rwa [add_of_mem present]
  · rw [add_of_not_mem present, ← List.concat_eq_append]
    exact distinct.concat present

theorem nodup_addAll (distinct : items.Nodup) (more : List α) : (addAll items more).Nodup := by
  induction more generalizing items with
  | nil => exact distinct
  | cons a more ih => exact ih (nodup_add distinct a)

theorem addAll_add (items seen : List α) (a : α) : addAll items (add seen a) = add (addAll items seen) a := by
  by_cases present : a ∈ seen
  · rw [add_of_mem present, add_of_mem (mem_addAll.mpr (.inr present))]
  · rw [add_of_not_mem present, addAll, addAll, List.foldl_append, List.foldl_cons, List.foldl_nil]

/-- What is already collected may be added before or after it is joined to other items. -/
theorem addAll_addAll (items seen more : List α) :
    addAll items (addAll seen more) = addAll (addAll items seen) more := by
  induction more generalizing seen with
  | nil => rfl
  | cons a more ih => rw [addAll_cons, addAll_cons, ih, addAll_add]

/-- Repetitions that are taken out first make no difference. -/
theorem addAll_ofList (items more : List α) : addAll items (ofList more) = addAll items more :=
  addAll_addAll items [] more

/-- Of the items that are added, those that are new stay, each where it stands first. -/
theorem addAll_eq_append_eraseDups (items more : List α) :
    addAll items more = items ++ (more.filter (!items.contains ·)).eraseDups := by
  induction more generalizing items with
  | nil => simp [addAll]
  | cons a more ih =>
    rw [addAll_cons, ih]
    by_cases present : a ∈ items
    · rw [add_of_mem present, List.filter_cons_of_neg (by simpa using present)]
    · have later : more.filter (!(items ++ [a]).contains ·) = (more.filter (!items.contains ·)).filter (!· == a) := by
        rw [List.filter_filter]
        refine List.filter_congr fun b _ => ?_
        rw [Bool.eq_iff_iff]
        simp [and_comm]
      rw [add_of_not_mem present, List.filter_cons_of_pos (by simpa using present), List.eraseDups_cons, later,
        List.append_assoc, List.singleton_append]

theorem ofList_eq_eraseDups (items : List α) : ofList items = items.eraseDups := by
  rw [ofList, addAll_eq_append_eraseDups]
  simp

end Plumbline.Distinct
