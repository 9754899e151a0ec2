import Mathlib.Data.List.Perm.Subperm
import Plumbline.Proofs.Blueprint.Paths
import Plumbline.Proofs.Distinct

namespace Plumbline

namespace LayoutNode

/-- The name of a node among those that lead to it, if it is a directory that holds a file. -/
def holder? (file : String) : List String × LayoutNode → Option String
  | (_, .file) => none
  | (names, .directory entries) => if holdsFile file entries then names.getLast? else none

theorem holder?_cons {file name : String} {found : List String × LayoutNode} (further : found.1 ≠ []) :
    holder? file (name :: found.1, found.2) = holder? file found := by
  obtain ⟨names, node⟩ := found
  cases node with
  | file => rfl
  | directory entries =>
    have last : (name :: names).getLast? = names.getLast? := by
      rw [List.getLast?_cons, List.getLast?_eq_some_getLast further, Option.getD_some]
    rw [holder?, holder?, last]

/-- The names that lead to a node, if it is a file of this name. -/
def copy? (file : String) : List String × LayoutNode → Option (List String)
  | (names, .file) => if names.getLast? = some file then some names else none
  | (_, .directory _) => none

/-- The directories that hold a file come in the order of their paths. -/
theorem holdersFrom_eq (file : String) : ∀ entries : Entries,
    holdersFrom file entries = (nodes entries).filterMap (holder? file)
  | [] => rfl
  | (name, .file) :: rest => by
    rw [holdersFrom, holdersOf, holdersFrom_eq file rest, nodes, inside]
    rfl
  | (name, .directory inner) :: rest => by
    have below : ((nodes inner).map fun found => (name :: found.1, found.2)).filterMap (holder? file) =
        (nodes inner).filterMap (holder? file) := by
      rw [List.filterMap_map]
      exact List.filterMap_congr fun found member => holder?_cons (leads_of_mem_nodes member).ne_nil
    have here : (if holdsFile file inner then [name] else []) = [([name], directory inner)].filterMap (holder? file) := by
      cases held : holdsFile file inner <;> simp [holder?, held]
    have split : nodes ((name, directory inner) :: rest) =
        [([name], directory inner)] ++ (nodes inner).map (fun found => (name :: found.1, found.2)) ++ nodes rest := rfl
    rw [holdersFrom, holdersOf, holdersFrom_eq file inner, holdersFrom_eq file rest, split, List.filterMap_append,
      List.filterMap_append, below, here]

end LayoutNode

namespace Layout

open LayoutNode

/-- Whether a directory of this name, below the top, holds a file. -/
def IsHolder (layout : Layout) (file name : String) : Prop :=
  ∃ above entries, Leads layout.entries (above ++ [name]) (.directory entries) ∧ holdsFile file entries = true

/-- Whether directories of different names hold a file. -/
def IsHeldVariously (layout : Layout) (file : String) : Prop :=
  ∃ name name', name ≠ name' ∧ layout.IsHolder file name ∧ layout.IsHolder file name'

theorem mem_holders_iff {layout : Layout} {file name : String} :
    name ∈ layout.holders file ↔ layout.IsHolder file name := by
  rw [holders, Distinct.ofList, Distinct.mem_addAll, or_iff_right List.not_mem_nil, holdersFrom_eq, List.mem_filterMap]
  constructor
  · rintro ⟨⟨names, node⟩, found, named⟩
    cases node with
    | file => cases named
    | directory entries =>
      rw [holder?] at named
      split at named
      · rename_i held
        obtain ⟨above, rfl⟩ := List.getLast?_eq_some_iff.mp named
        exact ⟨above, entries, mem_nodes_iff.mp found, held⟩
      · cases named
  · rintro ⟨above, entries, leads, held⟩
    refine ⟨_, mem_nodes_iff.mpr leads, ?_⟩
    rw [holder?, if_pos held, List.getLast?_concat]

/-- The places of all files of this name, the top included. -/
def copies (layout : Layout) (file : String) : List (List String) := (nodes layout.entries).filterMap (copy? file)

theorem nodup_holders (layout : Layout) (file : String) : (layout.holders file).Nodup := Distinct.nodup_addAll .nil _

theorem one_lt_length_holders_iff {layout : Layout} {file : String} :
    1 < (layout.holders file).length ↔ layout.IsHeldVariously file := by
  have distinct := layout.nodup_holders file
  constructor
  · intro several
    obtain ⟨name, name', rest, found⟩ : ∃ name name' rest, layout.holders file = name :: name' :: rest := by
      match found : layout.holders file with
      | [] => simp [found] at several
      | [_] => simp [found] at several
      | name :: name' :: rest => exact ⟨name, name', rest, rfl⟩
    rw [found, List.nodup_cons] at distinct
    refine ⟨name, name', ?_, mem_holders_iff.mp (by simp [found]), mem_holders_iff.mp (by simp [found])⟩
    rintro rfl
    exact distinct.1 List.mem_cons_self
  · rintro ⟨name, name', different, first, second⟩
    have pair : [name, name'].Nodup := by simpa using different
    refine (pair.subperm fun other member => ?_).length_le
    rcases List.mem_cons.mp member with rfl | member
    · exact mem_holders_iff.mpr first
    · rw [List.mem_singleton.mp member]
      exact mem_holders_iff.mpr second

end Layout

end Plumbline
