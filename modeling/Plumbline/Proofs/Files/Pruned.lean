import Plumbline.Proofs.Files.Node

namespace Plumbline.Node

mutual
/-- What is left of the entries of a directory when nothing stays but the places that are to be kept. -/
def pruneAmong (kept : List String → Bool) : List (String × Node) → List (String × Node)
  | [] => []
  | (name, node) :: rest =>
    (if kept [name] then [(name, prune (fun place => kept (name :: place)) node)] else []) ++ pruneAmong kept rest

def prune (kept : List String → Bool) : Node → Node
  | .file text => .file text
  | .directory entries => .directory (pruneAmong kept entries)
end

variable {kept : List String → Bool}

@[simp] theorem kind_prune (node : Node) : (node.prune kept).kind = node.kind := by
  cases node <;> rfl

@[simp] theorem isDirectory_prune (node : Node) : (node.prune kept).isDirectory = node.isDirectory := by
  cases node <;> rfl

theorem lookup_pruneAmong (name : String) (entries : List (String × Node)) :
    (pruneAmong kept entries).lookup name =
      if kept [name] then (entries.lookup name).map (prune fun place => kept (name :: place)) else none := by
  induction entries with
  | nil => simp [pruneAmong]
  | cons entry rest ih =>
    obtain ⟨head, node⟩ := entry
    rw [pruneAmong, NameMap.lookup_cons_eq]
    by_cases stays : kept [head] = true
    · rw [if_pos stays, List.singleton_append, NameMap.lookup_cons_eq, ih]
      by_cases here : name = head
      · subst name
        simp [stays]
      · rw [if_neg here, if_neg here]
    · rw [if_neg stays, List.nil_append, ih]
      by_cases here : name = head
      · subst name
        rw [if_neg stays, if_neg stays]
      · rw [if_neg here]

theorem map_fst_pruneAmong (entries : List (String × Node)) :
    (pruneAmong kept entries).map (·.1) = (entries.map (·.1)).filter fun name => kept [name] := by
  induction entries with
  | nil => rfl
  | cons entry rest ih =>
    rw [pruneAmong, List.map_append, ih, List.map_cons, List.filter_cons]
    split <;> rfl

/-- A place is as before, but for what is pruned below it, when all is kept that leads to it. -/
theorem find?_prune {place : List String} {node : Node}
    (all : ∀ lead name, lead ++ [name] <+: place → kept (lead ++ [name]) = true) :
    (node.prune kept).find? place = (node.find? place).map (prune fun rest => kept (place ++ rest)) := by
  induction place generalizing node kept with
  | nil => rfl
  | cons name place ih =>
    have stays : kept [name] = true := all [] name (List.prefix_append [name] place)
    have below : ∀ lead next, lead ++ [next] <+: place → kept (name :: (lead ++ [next])) = true :=
      fun lead next before => all (name :: lead) next (List.cons_prefix_cons.mpr ⟨rfl, before⟩)
    cases node with
    | file text => rfl
    | directory entries =>
      rw [prune, find?, find?, child?, child?, lookup_pruneAmong, if_pos stays]
      cases entries.lookup name with
      | none => rfl
      | some child => exact ih below

theorem kept_of_find?_prune {lead : List String} {name : String} {node found : Node}
    (there : (node.prune kept).find? (lead ++ [name]) = some found) : kept (lead ++ [name]) = true := by
  induction lead generalizing node kept with
  | nil =>
    obtain ⟨entries, child, pruned, atName, _⟩ := find?_cons_eq_some.mp there
    cases node with
    | file text => cases pruned
    | directory entries =>
      cases pruned
      rw [lookup_pruneAmong] at atName
      split at atName
      · assumption
      · cases atName
  | cons first lead ih =>
    obtain ⟨entries, child, pruned, atName, leads⟩ := find?_cons_eq_some.mp there
    cases node with
    | file text => cases pruned
    | directory entries =>
      cases pruned
      rw [lookup_pruneAmong] at atName
      split at atName
      · obtain ⟨_, _, rfl⟩ := Option.map_eq_some_iff.mp atName
        exact ih leads
      · cases atName

theorem mem_pruneAmong {entry : String × Node} {entries : List (String × Node)}
    (member : entry ∈ pruneAmong kept entries) :
    ∃ node, (entry.1, node) ∈ entries ∧ entry.2 = node.prune fun place => kept (entry.1 :: place) := by
  induction entries with
  | nil => cases member
  | cons head rest ih =>
    obtain ⟨name, node⟩ := head
    rw [pruneAmong, List.mem_append] at member
    rcases member with here | later
    · split at here
      · cases List.mem_singleton.mp here
        exact ⟨node, List.mem_cons_self, rfl⟩
      · cases here
    · obtain ⟨node, old, same⟩ := ih later
      exact ⟨node, List.mem_cons_of_mem _ old, same⟩

theorem pruneAmong_increasing {entries : List (String × Node)} (increasing : entries.Pairwise fun a b => a.1 < b.1) :
    (pruneAmong kept entries).Pairwise fun a b => a.1 < b.1 := by
  induction entries with
  | nil => exact .nil
  | cons head rest ih =>
    obtain ⟨name, node⟩ := head
    obtain ⟨above, increasing⟩ := List.pairwise_cons.mp increasing
    rw [pruneAmong]
    split
    · refine List.pairwise_cons.mpr ⟨fun entry member => ?_, ih increasing⟩
      obtain ⟨node, old, _⟩ := mem_pruneAmong member
      exact above (entry.1, node) old
    · exact ih increasing

theorem WellFormed.prune {node : Node} (formed : node.WellFormed) : (node.prune kept).WellFormed := by
  induction formed generalizing kept with
  | file text => exact .file text
  | @directory entries increasing named _ ih =>
    refine .directory (pruneAmong_increasing increasing) (fun entry member => ?_) fun entry member => ?_
    · obtain ⟨node, old, _⟩ := mem_pruneAmong member
      exact named (entry.1, node) old
    · obtain ⟨node, old, same⟩ := mem_pruneAmong member
      rw [same]
      exact ih _ old

end Plumbline.Node
