import Plumbline.Files.Node
import Plumbline.Proofs.NameMap

namespace Plumbline

/-- What can stand as a name in a directory. -/
def IsName (name : String) : Prop := name ≠ "" ∧ name ≠ "." ∧ name ≠ ".." ∧ '/' ∉ name.toList

instance (name : String) : Decidable (IsName name) := inferInstanceAs (Decidable (_ ∧ _ ∧ _ ∧ _))

namespace Node

/-- A node as directories list it: names stand in increasing order, all the way down. -/
inductive WellFormed : Node → Prop
  | file (text : Option String) : WellFormed (.file text)
  | directory {entries : List (String × Node)} (increasing : entries.Pairwise fun a b => a.1 < b.1)
      (named : ∀ entry ∈ entries, IsName entry.1) (below : ∀ entry ∈ entries, WellFormed entry.2) :
      WellFormed (.directory entries)

/-- What a node is apart from what is in it. -/
inductive Kind where
  | file (text : Option String)
  | directory
deriving DecidableEq

def kind : Node → Kind
  | .file text => .file text
  | .directory _ => .directory

theorem find?_append (place rest : List String) (node : Node) :
    node.find? (place ++ rest) = (node.find? place).bind (find? rest) := by
  induction place generalizing node with
  | nil => rfl
  | cons name place ih =>
    rw [List.cons_append, find?, find?]
    cases node.child? name with
    | none => rfl
    | some child => exact ih child

/-- What is found behind a place is found in a directory there. -/
theorem find?_cons_eq_some {name : String} {place : List String} {node found : Node} :
    node.find? (name :: place) = some found ↔
      ∃ entries child, node = .directory entries ∧ entries.lookup name = some child ∧
        child.find? place = some found := by
  cases node with
  | file text => simp [find?, child?]
  | directory entries =>
    simp only [find?, child?, Option.bind_eq_some_iff, directory.injEq]
    constructor
    · rintro ⟨child, there, leads⟩
      exact ⟨entries, child, rfl, there, leads⟩
    · rintro ⟨_, child, rfl, there, leads⟩
      exact ⟨child, there, leads⟩

theorem mem_names_iff {name : String} {entries : List (String × Node)} :
    name ∈ entries.map (·.1) ↔ ∃ found, (directory entries).find? [name] = some found := by
  have looked : (∃ found, (directory entries).find? [name] = some found) ↔ (entries.lookup name).isSome = true := by
    rw [Option.isSome_iff_exists]
    simp [find?, child?]
  simp only [looked, List.lookup_isSome_iff, List.mem_map, beq_iff_eq, @eq_comm _ name]

theorem WellFormed.find? {place : List String} {node found : Node} (formed : node.WellFormed)
    (there : node.find? place = some found) : found.WellFormed := by
  induction place generalizing node with
  | nil =>
    cases Option.some.inj there
    exact formed
  | cons name place ih =>
    obtain ⟨entries, child, rfl, atName, leads⟩ := find?_cons_eq_some.mp there
    cases formed with
    | directory _ _ below => exact ih (below _ (NameMap.mem_of_lookup atName)) leads

/-- Whatever a path of names leads to, the names are proper. -/
theorem WellFormed.isName_of_find? {place : List String} {node found : Node} (formed : node.WellFormed)
    (there : node.find? place = some found) : ∀ name ∈ place, IsName name := by
  induction place generalizing node with
  | nil => exact List.forall_mem_nil _
  | cons name place ih =>
    obtain ⟨entries, child, rfl, atName, leads⟩ := find?_cons_eq_some.mp there
    cases formed with
    | directory _ named below =>
      have entry := NameMap.mem_of_lookup atName
      exact List.forall_mem_cons.mpr ⟨named _ entry, ih (below _ entry) leads⟩

theorem wellFormed_empty : (directory []).WellFormed := .directory .nil (List.forall_mem_nil _) (List.forall_mem_nil _)

/-- What is put under proper names leaves all listed as it should be. -/
theorem WellFormed.place {node new : Node} {names : List String} (formed : node.WellFormed) (formed' : new.WellFormed)
    (named : ∀ name ∈ names, IsName name) : (node.place names new).WellFormed := by
  induction names generalizing node with
  | nil => cases node <;> exact formed'
  | cons name names ih =>
    obtain ⟨here, named⟩ := List.forall_mem_cons.mp named
    cases formed with
    | file text =>
      have below := ih wellFormed_empty named
      exact .directory (List.pairwise_singleton ..) (List.forall_mem_singleton.mpr here)
        (List.forall_mem_singleton.mpr below)
    | @directory entries increasing proper formed =>
      have child : ((entries.lookup name).getD (Node.directory [])).WellFormed := by
        cases there : entries.lookup name with
        | none => exact wellFormed_empty
        | some node => exact formed _ (NameMap.mem_of_lookup there)
      refine .directory (NameMap.insertEntry_increasing increasing) (fun entry member => ?_) fun entry member => ?_
      · rcases NameMap.mem_insertEntry member with rfl | old
        · exact here
        · exact proper entry old
      · rcases NameMap.mem_insertEntry member with rfl | old
        · exact ih child named
        · exact formed entry old

/-- Directories are determined by what stands at each path below them. -/
theorem eq_of_same_kinds {node other : Node} (formed : node.WellFormed) (formed' : other.WellFormed)
    (same : ∀ place, (node.find? place).map kind = (other.find? place).map kind) : node = other := by
  induction formed generalizing other with
  | file text =>
    have here := same []
    cases other with
    | file text' =>
      have kinds : Kind.file text = Kind.file text' := Option.some.inj here
      rw [Kind.file.inj kinds]
    | directory entries => cases Option.some.inj here
  | @directory entries increasing named below ih =>
    cases formed' with
    | file text => cases Option.some.inj (same [])
    | @directory entries' increasing' named' below' =>
      have child (name : String) : entries.lookup name = entries'.lookup name := by
        have here (place : List String) : ((entries.lookup name).bind (Node.find? place)).map kind =
            ((entries'.lookup name).bind (Node.find? place)).map kind := same (name :: place)
        cases there : entries.lookup name with
        | none =>
          have none := here []
          rw [there] at none
          cases there' : entries'.lookup name with
          | none => rfl
          | some node' => rw [there'] at none; cases none
        | some node =>
          cases there' : entries'.lookup name with
          | none =>
            have some := here []
            rw [there, there'] at some
            cases some
          | some node' =>
            rw [there, there'] at here
            have formed' := below' _ (NameMap.mem_of_lookup there')
            exact congrArg some (ih _ (NameMap.mem_of_lookup there) formed' here)
      rw [NameMap.eq_of_lookup_eq increasing increasing' child]

/-- A node with proper names in its directories, each once and in any order, all the way down. -/
inductive Listed : Node → Prop
  | file (text : Option String) : Listed (.file text)
  | directory {entries : List (String × Node)} (distinct : (entries.map (·.1)).Nodup)
      (named : ∀ entry ∈ entries, IsName entry.1) (below : ∀ entry ∈ entries, Listed entry.2) :
      Listed (.directory entries)

theorem WellFormed.listed {node : Node} (formed : node.WellFormed) : node.Listed := by
  induction formed with
  | file text => exact .file text
  | directory increasing named _ ih => exact .directory (NameMap.nodup_of_increasing increasing) named ih

theorem insertByName_perm (entry : String × Node) (entries : List (String × Node)) :
    (insertByName entry entries).Perm (entry :: entries) := by
  induction entries with
  | nil => exact .refl _
  | cons other rest ih =>
    rw [insertByName]
    split
    · exact (ih.cons other).trans (.swap ..)
    · exact .refl _

/-- An entry of a new name is put where the names stay in order. -/
theorem insertByName_increasing {entry : String × Node} {entries : List (String × Node)}
    (increasing : entries.Pairwise fun a b => a.1 < b.1) (fresh : ∀ other ∈ entries, other.1 ≠ entry.1) :
    (insertByName entry entries).Pairwise fun a b => a.1 < b.1 := by
  induction entries with
  | nil => exact List.pairwise_singleton ..
  | cons other rest ih =>
    obtain ⟨above, later⟩ := List.pairwise_cons.mp increasing
    obtain ⟨apart, fresh⟩ := List.forall_mem_cons.mp fresh
    rw [insertByName]
    split
    · rename_i before
      refine List.pairwise_cons.mpr ⟨fun next member => ?_, ih later fresh⟩
      rcases List.mem_cons.mp ((insertByName_perm entry rest).mem_iff.mp member) with rfl | old
      · exact before
      · exact above next old
    · rename_i notBefore
      have here : entry.1 < other.1 :=
        String.not_le.mp fun below => apart (String.le_antisymm below (String.not_lt.mp notBefore))
      refine List.pairwise_cons.mpr ⟨List.forall_mem_cons.mpr ⟨here, fun next member => ?_⟩, increasing⟩
      exact String.lt_trans here (above next member)

theorem sortedAmong_perm (entries : List (String × Node)) :
    (sortedAmong entries).Perm (entries.map fun entry => (entry.1, entry.2.sorted)) := by
  induction entries with
  | nil => exact .refl _
  | cons entry rest ih => exact (insertByName_perm _ _).trans (ih.cons _)

theorem mem_sortedAmong_iff {name : String} {found : Node} {entries : List (String × Node)} :
    (name, found) ∈ sortedAmong entries ↔ ∃ node, (name, node) ∈ entries ∧ node.sorted = found := by
  rw [(sortedAmong_perm entries).mem_iff, List.mem_map]
  constructor
  · rintro ⟨⟨_, node⟩, listed, same⟩
    cases same
    exact ⟨node, listed, rfl⟩
  · rintro ⟨node, listed, rfl⟩
    exact ⟨(name, node), listed, rfl⟩

theorem map_fst_sortedAmong_perm (entries : List (String × Node)) :
    ((sortedAmong entries).map (·.1)).Perm (entries.map (·.1)) := by
  have names := (sortedAmong_perm entries).map (·.1)
  rwa [List.map_map] at names

/-- Distinct names come out in increasing order. -/
theorem sortedAmong_increasing {entries : List (String × Node)} (distinct : (entries.map (·.1)).Nodup) :
    (sortedAmong entries).Pairwise fun a b => a.1 < b.1 := by
  induction entries with
  | nil => exact .nil
  | cons entry rest ih =>
    obtain ⟨apart, distinct⟩ := List.nodup_cons.mp distinct
    refine insertByName_increasing (ih distinct) fun other member same => apart ?_
    have listed : other.1 ∈ rest.map (·.1) := (map_fst_sortedAmong_perm rest).mem_iff.mp (List.mem_map_of_mem member)
    rwa [same] at listed

theorem lookup_sortedAmong {entries : List (String × Node)} (distinct : (entries.map (·.1)).Nodup) (name : String) :
    (sortedAmong entries).lookup name = (entries.lookup name).map sorted := by
  have distinct' := (map_fst_sortedAmong_perm entries).nodup_iff.mpr distinct
  ext found
  rw [Option.map_eq_some_iff]
  constructor
  · intro there
    obtain ⟨node, listed, same⟩ := mem_sortedAmong_iff.mp (NameMap.mem_of_lookup there)
    exact ⟨node, NameMap.lookup_of_mem_of_nodup distinct listed, same⟩
  · rintro ⟨node, there, same⟩
    exact NameMap.lookup_of_mem_of_nodup distinct' (mem_sortedAmong_iff.mpr ⟨node, NameMap.mem_of_lookup there, same⟩)

/-- Whatever the order in which the directories list their entries, it is made to be that of the names. -/
theorem Listed.wellFormed_sorted {node : Node} (listed : node.Listed) : node.sorted.WellFormed := by
  induction listed with
  | file text => exact .file text
  | @directory entries distinct named below ih =>
    refine .directory (sortedAmong_increasing distinct) (fun entry member => ?_) fun entry member => ?_
    · obtain ⟨node, listed, _⟩ := mem_sortedAmong_iff.mp member
      exact named (entry.1, node) listed
    · obtain ⟨node, listed, same⟩ := mem_sortedAmong_iff.mp member
      rw [← same]
      exact ih (entry.1, node) listed

/-- Paths lead to what they led to, in order. -/
theorem Listed.find?_sorted {node : Node} (listed : node.Listed) (place : List String) :
    node.sorted.find? place = (node.find? place).map sorted := by
  induction place generalizing node with
  | nil => rfl
  | cons name place ih =>
    cases listed with
    | file text => rfl
    | @directory entries distinct _ below =>
      rw [sorted, find?, find?, child?, child?, lookup_sortedAmong distinct]
      cases there : entries.lookup name with
      | none => rfl
      | some child => exact ih (below _ (NameMap.mem_of_lookup there))

/-- What is in order stays as it is. -/
theorem sorted_directory_eq_self {entries : List (String × Node)}
    (increasing : entries.Pairwise fun a b => a.1 < b.1) (below : ∀ entry ∈ entries, entry.2.sorted = entry.2) :
    (directory entries).sorted = directory entries := by
  have same : entries.map (fun entry => (entry.1, entry.2.sorted)) = entries.map id :=
    List.map_congr_left fun entry listed => congrArg (Prod.mk entry.1) (below entry listed)
  have perm : (sortedAmong entries).Perm entries := by
    have sorted := sortedAmong_perm entries
    rwa [same, List.map_id] at sorted
  have increasing' := sortedAmong_increasing (NameMap.nodup_of_increasing increasing)
  rw [sorted, NameMap.eq_of_perm_of_increasing increasing' increasing perm]

theorem WellFormed.sorted_eq_self {node : Node} (formed : node.WellFormed) : node.sorted = node := by
  induction formed with
  | file text => rfl
  | directory increasing _ _ ih => exact sorted_directory_eq_self increasing ih

end Node

end Plumbline
