namespace Plumbline

/-- A table from names to values, kept in increasing order of the names. -/
structure NameMap (α : Type) where
  entries : List (String × α)
  increasing : entries.Pairwise (fun a b => a.1 < b.1)

namespace NameMap

variable {α : Type}

def empty : NameMap α := ⟨[], .nil⟩

instance : Inhabited (NameMap α) := ⟨empty⟩

def get? (m : NameMap α) (name : String) : Option α := m.entries.lookup name

def keys (m : NameMap α) : List String := m.entries.map (·.1)

/-- Puts a value under a name in a list of entries; an older value of that name goes. -/
def insertEntry (name : String) (a : α) : List (String × α) → List (String × α)
  | [] => [(name, a)]
  | (other, b) :: rest =>
    if name < other then (name, a) :: (other, b) :: rest
    else if other < name then (other, b) :: insertEntry name a rest
    else (other, a) :: rest

theorem insertEntry_above {bound name : String} {a : α} {entries : List (String × α)} (above : bound < name)
    (all : ∀ e ∈ entries, bound < e.1) : ∀ e ∈ insertEntry name a entries, bound < e.1 := by
  induction entries with
  | nil => simpa [insertEntry] using above
  | cons entry rest ih =>
    obtain ⟨other, b⟩ := entry
    obtain ⟨head, tail⟩ := List.forall_mem_cons.1 all
    rw [insertEntry]
    split
    · exact List.forall_mem_cons.2 ⟨above, all⟩
    · split
      · exact List.forall_mem_cons.2 ⟨head, ih tail⟩
      · exact List.forall_mem_cons.2 ⟨head, tail⟩

theorem insertEntry_increasing {name : String} {a : α} {entries : List (String × α)}
    (increasing : entries.Pairwise (fun a b => a.1 < b.1)) :
    (insertEntry name a entries).Pairwise (fun a b => a.1 < b.1) := by
  induction entries with
  | nil => simp [insertEntry]
  | cons entry rest ih =>
    obtain ⟨other, b⟩ := entry
    rw [List.pairwise_cons] at increasing
    rw [insertEntry]
    split
    · rename_i below
      refine List.pairwise_cons.2 ⟨?_, List.pairwise_cons.2 increasing⟩
      simp only [List.mem_cons, forall_eq_or_imp]
      exact ⟨below, fun e member => String.lt_trans below (increasing.1 e member)⟩
    · split
      · rename_i above
        exact List.pairwise_cons.2 ⟨insertEntry_above above increasing.1, ih increasing.2⟩
      · exact List.pairwise_cons.2 increasing

/-- Puts a value under a name; an older value of that name goes. -/
def insert (m : NameMap α) (name : String) (a : α) : NameMap α :=
  ⟨insertEntry name a m.entries, insertEntry_increasing m.increasing⟩

/-- Puts every pair in turn, so that of equal names the last one stays. -/
def ofList (pairs : List (String × α)) : NameMap α := pairs.foldl (fun m (name, a) => m.insert name a) empty

/-- Adds a value only where the name has none. -/
def insertNew (m : NameMap α) (name : String) (a : α) : NameMap α :=
  if (m.get? name).isSome then m else m.insert name a

end NameMap

end Plumbline
