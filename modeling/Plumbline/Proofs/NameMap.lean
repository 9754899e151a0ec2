import Mathlib.Data.List.Basic
import Plumbline.NameMap

namespace Plumbline.NameMap

variable {α : Type}

theorem lookup_cons_eq (head other : String) (a : α) (rest : List (String × α)) :
    ((head, a) :: rest).lookup other = if other = head then some a else rest.lookup other := by
  by_cases same : other = head
  · simp [same]
  · simp [List.lookup_cons, beq_eq_false_iff_ne.mpr same, same]

theorem lookup_insertEntry (name other : String) (a : α) (entries : List (String × α)) :
    (insertEntry name a entries).lookup other = if other = name then some a else entries.lookup other := by
  induction entries with
  | nil => rw [insertEntry, lookup_cons_eq]
  | cons entry rest ih =>
    obtain ⟨head, b⟩ := entry
    rw [insertEntry]
    by_cases below : name < head
    · rw [if_pos below, lookup_cons_eq]
    · rw [if_neg below, lookup_cons_eq head other b rest]
      by_cases above : head < name
      · rw [if_pos above, lookup_cons_eq, ih]
        by_cases atHead : other = head
        · subst other
          simp [String.ne_of_lt above]
        · simp [atHead]
      · have same : head = name := String.le_antisymm (String.not_lt.mp below) (String.not_lt.mp above)
        subst same
        rw [if_neg above, lookup_cons_eq]
        by_cases atHead : other = head <;> simp [atHead]

@[simp] theorem lookup_insertEntry_self (name : String) (a : α) (entries : List (String × α)) :
    (insertEntry name a entries).lookup name = some a := by
  rw [lookup_insertEntry, if_pos rfl]

theorem lookup_insertEntry_of_ne {name other : String} (different : other ≠ name) (a : α)
    (entries : List (String × α)) : (insertEntry name a entries).lookup other = entries.lookup other := by
  rw [lookup_insertEntry, if_neg different]

theorem insertEntry_cons_self (name : String) (a b : α) (rest : List (String × α)) :
    insertEntry name a ((name, b) :: rest) = (name, a) :: rest := by
  rw [insertEntry, if_neg (String.lt_irrefl name), if_neg (String.lt_irrefl name)]

/-- Of two values put under one name the later one stays. -/
theorem insertEntry_insertEntry (name : String) (a b : α) (entries : List (String × α)) :
    insertEntry name a (insertEntry name b entries) = insertEntry name a entries := by
  induction entries with
  | nil => exact insertEntry_cons_self name a b []
  | cons entry rest ih =>
    obtain ⟨head, c⟩ := entry
    by_cases below : name < head
    · have first (d : α) : insertEntry name d ((head, c) :: rest) = (name, d) :: (head, c) :: rest := if_pos below
      rw [first, first, insertEntry_cons_self]
    · by_cases above : head < name
      · simp [insertEntry, below, above, ih]
      · simp [insertEntry, below, above]

/-- A name that is new takes a place of its own among the entries. -/
theorem insertEntry_perm {name : String} {entries : List (String × α)} (a : α)
    (fresh : entries.lookup name = none) : (insertEntry name a entries).Perm ((name, a) :: entries) := by
  induction entries with
  | nil => exact .refl _
  | cons entry rest ih =>
    obtain ⟨head, b⟩ := entry
    have apart : name ≠ head := by
      rintro rfl
      simp at fresh
    have below : rest.lookup name = none := by rwa [lookup_cons_eq, if_neg apart] at fresh
    rw [insertEntry]
    split
    · exact .refl _
    · split
      · exact ((ih below).cons _).trans (.swap ..)
      · rename_i notBelow notAbove
        exact absurd (String.le_antisymm (String.not_lt.mp notAbove) (String.not_lt.mp notBelow)) apart

theorem mem_insertEntry {name : String} {a : α} {entries : List (String × α)} {entry : String × α}
    (member : entry ∈ insertEntry name a entries) : entry = (name, a) ∨ entry ∈ entries := by
  induction entries with
  | nil => exact Or.inl (List.mem_singleton.mp member)
  | cons head rest ih =>
    obtain ⟨other, b⟩ := head
    rw [insertEntry] at member
    split at member
    · exact List.mem_cons.mp member
    · split at member
      · rcases List.mem_cons.mp member with rfl | later
        · exact Or.inr (List.mem_cons_self ..)
        · exact (ih later).imp_right (List.mem_cons_of_mem _)
      · rename_i notBelow notAbove
        have same : other = name := String.le_antisymm (String.not_lt.mp notBelow) (String.not_lt.mp notAbove)
        rcases List.mem_cons.mp member with rfl | old
        · exact Or.inl (by rw [same])
        · exact Or.inr (List.mem_cons_of_mem _ old)

theorem mem_of_lookup {name : String} {a : α} {entries : List (String × α)} (there : entries.lookup name = some a) :
    (name, a) ∈ entries := by
  obtain ⟨before, after, rfl, _⟩ := List.lookup_eq_some_iff.mp there
  simp

/-- A value that a name has already is put where it stands. -/
theorem insertEntry_eq_self {name : String} {a : α} {entries : List (String × α)}
    (increasing : entries.Pairwise fun a b => a.1 < b.1) (there : entries.lookup name = some a) :
    insertEntry name a entries = entries := by
  induction entries with
  | nil => simp at there
  | cons head rest ih =>
    obtain ⟨other, b⟩ := head
    obtain ⟨above, increasing⟩ := List.pairwise_cons.mp increasing
    rw [lookup_cons_eq] at there
    by_cases same : name = other
    · subst same
      rw [if_pos rfl] at there
      rw [insertEntry_cons_self, Option.some.inj there]
    · rw [if_neg same] at there
      have higher : other < name := above _ (mem_of_lookup there)
      rw [insertEntry, if_neg (String.lt_asymm higher), if_pos higher, ih increasing there]

/-- Entries in increasing order of their names are determined by what they are. -/
theorem eq_of_perm_of_increasing {these those : List (String × α)}
    (increasing : these.Pairwise (fun a b => a.1 < b.1)) (increasing' : those.Pairwise (fun a b => a.1 < b.1))
    (same : these.Perm those) : these = those :=
  same.eq_of_pairwise (fun _ _ _ _ below above => absurd (String.lt_trans below above) (String.lt_irrefl _))
    increasing increasing'

theorem nodup_of_increasing {entries : List (String × α)} (increasing : entries.Pairwise (fun a b => a.1 < b.1)) :
    (entries.map (·.1)).Nodup := by
  rw [List.nodup_iff_pairwise_ne, List.pairwise_map]
  exact increasing.imp fun below => String.ne_of_lt below

theorem lookup_of_mem_of_nodup {name : String} {a : α} {entries : List (String × α)}
    (distinct : (entries.map (·.1)).Nodup) (member : (name, a) ∈ entries) : entries.lookup name = some a := by
  induction entries with
  | nil => exact absurd member List.not_mem_nil
  | cons head rest ih =>
    obtain ⟨other, b⟩ := head
    obtain ⟨apart, distinct⟩ := List.nodup_cons.mp distinct
    rw [lookup_cons_eq]
    rcases List.mem_cons.mp member with here | later
    · cases here
      exact if_pos rfl
    · have listed : name ∈ rest.map (·.1) := List.mem_map_of_mem later
      have different : name ≠ other := fun same => apart (same ▸ listed)
      rw [if_neg different]
      exact ih distinct later

theorem lookup_of_mem {name : String} {a : α} {entries : List (String × α)}
    (increasing : entries.Pairwise (fun a b => a.1 < b.1)) (member : (name, a) ∈ entries) :
    entries.lookup name = some a :=
  lookup_of_mem_of_nodup (nodup_of_increasing increasing) member

/-- Entries in increasing order of their names are determined by what is found under each name. -/
theorem eq_of_lookup_eq {these those : List (String × α)} (increasing : these.Pairwise (fun a b => a.1 < b.1))
    (increasing' : those.Pairwise (fun a b => a.1 < b.1)) (same : ∀ name, these.lookup name = those.lookup name) :
    these = those := by
  have distinct {entries : List (String × α)} (increasing : entries.Pairwise (fun a b => a.1 < b.1)) : entries.Nodup := by
    rw [List.nodup_iff_pairwise_ne]
    exact increasing.imp fun below equal => String.ne_of_lt below (congrArg Prod.fst equal)
  refine eq_of_perm_of_increasing increasing increasing' ?_
  refine (List.perm_ext_iff_of_nodup (distinct increasing) (distinct increasing')).mpr fun entry => ?_
  constructor
  · exact fun member => mem_of_lookup (same entry.1 ▸ lookup_of_mem increasing member)
  · exact fun member => mem_of_lookup ((same entry.1).symm ▸ lookup_of_mem increasing' member)

/-- Puts every pair in turn among the entries. -/
def insertAll (pairs entries : List (String × α)) : List (String × α) :=
  pairs.foldl (fun entries pair => insertEntry pair.1 pair.2 entries) entries

@[simp] theorem insertAll_cons (name : String) (a : α) (pairs entries : List (String × α)) :
    insertAll ((name, a) :: pairs) entries = insertAll pairs (insertEntry name a entries) := rfl

theorem insertAll_increasing (pairs : List (String × α)) {entries : List (String × α)}
    (increasing : entries.Pairwise (fun a b => a.1 < b.1)) :
    (insertAll pairs entries).Pairwise (fun a b => a.1 < b.1) := by
  induction pairs generalizing entries with
  | nil => exact increasing
  | cons pair pairs ih => exact ih (insertEntry_increasing increasing)

theorem insertAll_perm {pairs entries : List (String × α)} (distinct : (pairs.map (·.1)).Nodup)
    (fresh : ∀ pair ∈ pairs, entries.lookup pair.1 = none) : (insertAll pairs entries).Perm (pairs ++ entries) := by
  induction pairs generalizing entries with
  | nil => exact .refl _
  | cons pair pairs ih =>
    obtain ⟨name, a⟩ := pair
    obtain ⟨here, below⟩ := List.forall_mem_cons.mp fresh
    obtain ⟨apart, distinct⟩ := List.nodup_cons.mp distinct
    have stillFresh : ∀ pair ∈ pairs, (insertEntry name a entries).lookup pair.1 = none := by
      intro pair member
      have different : pair.1 ≠ name := fun same => apart (List.mem_map.mpr ⟨pair, member, same⟩)
      rw [lookup_insertEntry_of_ne different]
      exact below pair member
    have added : (insertAll pairs (insertEntry name a entries)).Perm (pairs ++ insertEntry name a entries) :=
      ih distinct stillFresh
    exact (added.trans ((insertEntry_perm a here).append_left pairs)).trans List.perm_middle

/-- The order in which new names are put does not show in the result. -/
theorem insertAll_eq_of_perm {pairs pairs' entries : List (String × α)} (same : pairs.Perm pairs')
    (distinct : (pairs.map (·.1)).Nodup) (fresh : ∀ pair ∈ pairs, entries.lookup pair.1 = none)
    (increasing : entries.Pairwise (fun a b => a.1 < b.1)) : insertAll pairs entries = insertAll pairs' entries := by
  have distinct' : (pairs'.map (·.1)).Nodup := ((same.map _).nodup_iff).mp distinct
  have fresh' : ∀ pair ∈ pairs', entries.lookup pair.1 = none := fun pair member => fresh pair (same.mem_iff.mpr member)
  refine eq_of_perm_of_increasing (insertAll_increasing pairs increasing) (insertAll_increasing pairs' increasing) ?_
  exact (insertAll_perm distinct fresh).trans ((same.append_right entries).trans (insertAll_perm distinct' fresh').symm)

theorem insertAll_nil_eq_self {entries : List (String × α)} (increasing : entries.Pairwise (fun a b => a.1 < b.1)) :
    insertAll entries [] = entries := by
  refine eq_of_perm_of_increasing (insertAll_increasing entries .nil) increasing ?_
  simpa using insertAll_perm (nodup_of_increasing increasing) fun pair _ => List.lookup_nil (a := pair.1)

theorem entries_foldl_insert (pairs : List (String × α)) (m : NameMap α) :
    (pairs.foldl (fun m (name, a) => m.insert name a) m).entries = insertAll pairs m.entries := by
  induction pairs generalizing m with
  | nil => rfl
  | cons pair pairs ih => exact ih (m.insert pair.1 pair.2)

/-- A table is made from its own entries. -/
theorem ofList_entries (m : NameMap α) : ofList m.entries = m := by
  have same : (ofList m.entries).entries = m.entries :=
    (entries_foldl_insert m.entries empty).trans (insertAll_nil_eq_self m.increasing)
  generalize ofList m.entries = made at same
  cases made
  cases m
  cases same
  rfl

theorem mem_entries_ofList {pairs : List (String × α)} {entry : String × α} (member : entry ∈ (ofList pairs).entries) :
    entry ∈ pairs := by
  have among (pairs : List (String × α)) (m : NameMap α)
      (member : entry ∈ (pairs.foldl (fun m pair => m.insert pair.1 pair.2) m).entries) :
      entry ∈ m.entries ∨ entry ∈ pairs := by
    induction pairs generalizing m with
    | nil => exact .inl member
    | cons pair rest ih =>
      rcases ih (m.insert pair.1 pair.2) member with inserted | later
      · exact (mem_insertEntry inserted).elim (fun new => .inr (new ▸ List.mem_cons_self)) .inl
      · exact .inr (List.mem_cons_of_mem pair later)
  exact (among pairs empty member).resolve_left List.not_mem_nil

theorem mem_entries_insertNew {m : NameMap α} {name : String} {a : α} {entry : String × α}
    (member : entry ∈ (m.insertNew name a).entries) : entry = (name, a) ∨ entry ∈ m.entries := by
  unfold insertNew at member
  split at member
  · exact .inr member
  · exact mem_insertEntry member

theorem mem_keys_iff {m : NameMap α} {name : String} : name ∈ m.keys ↔ m.entries.lookup name ≠ none := by
  rw [ne_eq, List.lookup_eq_none_iff, keys, List.mem_map]
  constructor
  · rintro ⟨entry, member, rfl⟩ absent
    simpa using absent entry member
  · intro present
    by_contra absent
    exact present fun entry member => bne_iff_ne.mpr fun same => absent ⟨entry, member, same.symm⟩

theorem mem_keys_insert {m : NameMap α} {name other : String} {a : α} :
    other ∈ (m.insert name a).keys ↔ other = name ∨ other ∈ m.keys := by
  rw [mem_keys_iff, mem_keys_iff, insert, lookup_insertEntry]
  by_cases same : other = name <;> simp [same]

theorem mem_keys_ofList {pairs : List (String × α)} {name : String} :
    name ∈ (ofList pairs).keys ↔ name ∈ pairs.map (·.1) := by
  have among (pairs : List (String × α)) (m : NameMap α) :
      name ∈ (pairs.foldl (fun m pair => m.insert pair.1 pair.2) m).keys ↔ name ∈ pairs.map (·.1) ∨ name ∈ m.keys := by
    induction pairs generalizing m with
    | nil => simp
    | cons pair rest ih => rw [List.foldl_cons, ih, mem_keys_insert, List.map_cons, List.mem_cons, or_left_comm, or_assoc]
  exact (among pairs empty).trans (or_iff_left List.not_mem_nil)

theorem keys_increasing (m : NameMap α) : m.keys.Pairwise (· < ·) := List.pairwise_map.mpr m.increasing

end Plumbline.NameMap
