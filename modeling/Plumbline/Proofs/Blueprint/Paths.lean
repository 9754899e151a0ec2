import Mathlib.Data.List.Nodup
import Plumbline.Proofs.Blueprint.Layout
import Plumbline.Proofs.Files.Path
import Plumbline.Proofs.Files.Walk

namespace Plumbline

namespace LayoutNode

open NameMap

mutual
/-- The nodes of a directory with the names that lead to them, in the order of their paths. -/
def nodes : Entries → List (List String × LayoutNode)
  | [] => []
  | (name, node) :: rest => ([name], node) :: (inside node).map (fun (names, found) => (name :: names, found)) ++ nodes rest

def inside : LayoutNode → List (List String × LayoutNode)
  | .file => []
  | .directory entries => nodes entries
end

/-- Names that lead from the entries of a directory to a node. -/
inductive Leads : Entries → List String → LayoutNode → Prop
  | here {entries name node} (member : (name, node) ∈ entries) : Leads entries [name] node
  | into {entries name inner names node} (member : (name, directory inner) ∈ entries)
      (further : Leads inner names node) : Leads entries (name :: names) node

/-- What stands behind the last name in a path. -/
def mark : LayoutNode → String
  | .file => ""
  | .directory _ => "/"

/-- The path of a node that names lead to. -/
def shown (names : List String) (node : LayoutNode) : String := Path.ofSteps names ++ node.mark

/-- A name that is one step of a path. -/
def IsStep (name : String) : Prop := name ≠ "" ∧ '/' ∉ name.toList

instance (name : String) : Decidable (IsStep name) := inferInstanceAs (Decidable (_ ∧ _))

section Nodes

variable {entries : Entries} {names : List String} {node : LayoutNode}

theorem Leads.ne_nil (leads : Leads entries names node) : names ≠ [] := by
  cases leads <;> exact List.cons_ne_nil _ _

theorem Leads.of_subset {more : Entries} (subset : entries ⊆ more) (leads : Leads entries names node) :
    Leads more names node := by
  cases leads with
  | here member => exact .here (subset member)
  | into member further => exact .into (subset member) further

theorem Leads.append {inner : Entries} {below : List String} (leads : Leads entries names (.directory inner))
    (further : Leads inner below node) : Leads entries (names ++ below) node := by
  generalize same : LayoutNode.directory inner = above at leads
  induction leads with
  | here member =>
    subst same
    exact .into member further
  | into member _ ih => exact .into member (ih same)

theorem leads_cons {name : String} (further : names ≠ []) :
    Leads entries (name :: names) node ↔ ∃ inner, (name, directory inner) ∈ entries ∧ Leads inner names node := by
  constructor
  · rintro (⟨member⟩ | ⟨member, leads⟩)
    · exact absurd rfl further
    · exact ⟨_, member, leads⟩
  · rintro ⟨inner, member, leads⟩
    exact .into member leads

/-- What stands further in stands in a directory. -/
theorem Leads.of_append {above below : List String} (leads : Leads entries (above ++ below) node) (first : above ≠ [])
    (second : below ≠ []) : ∃ inner, Leads entries above (.directory inner) := by
  induction above generalizing entries with
  | nil => exact absurd rfl first
  | cons name above ih =>
    obtain ⟨inner, member, leads⟩ := (leads_cons (by simp [second])).mp leads
    by_cases last : above = []
    · subst last
      exact ⟨inner, .here member⟩
    · obtain ⟨deeper, leads⟩ := ih leads last
      exact ⟨deeper, .into member leads⟩

/-- What holds of all names in a layout holds of those on the way to a node. -/
theorem Leads.forall_mem {P : String → Prop} (leads : Leads entries names node) (named : Named P entries) :
    ∀ name ∈ names, P name := by
  induction leads with
  | here member => exact List.forall_mem_singleton.mpr (named.here _ member)
  | into member _ ih => exact List.forall_mem_cons.mpr ⟨named.here _ member, ih (named.inside member)⟩

theorem leads_of_mem_nodes : ∀ {entries : Entries} {found : List String × LayoutNode}, found ∈ nodes entries →
    Leads entries found.1 found.2
  | [], _, member => absurd member List.not_mem_nil
  | (name, node) :: rest, found, member => by
    rw [nodes, List.cons_append, List.mem_cons, List.mem_append] at member
    rcases member with rfl | deeper | later
    · exact .here List.mem_cons_self
    · cases node with
      | file => exact absurd deeper List.not_mem_nil
      | directory inner =>
        obtain ⟨below, member, rfl⟩ := List.mem_map.mp deeper
        exact .into List.mem_cons_self (leads_of_mem_nodes member)
    · exact (leads_of_mem_nodes later).of_subset (List.subset_cons_self _ _)

theorem mem_nodes_of_entry {name : String} {found : List String × LayoutNode} (member : (name, node) ∈ entries)
    (there : found = ([name], node) ∨ ∃ below ∈ inside node, found = (name :: below.1, below.2)) :
    found ∈ nodes entries := by
  induction entries with
  | nil => exact absurd member List.not_mem_nil
  | cons entry rest ih =>
    rw [nodes, List.cons_append, List.mem_cons, List.mem_append]
    rcases List.mem_cons.mp member with rfl | later
    · refine there.imp_right fun ⟨below, deeper, same⟩ => .inl ?_
      exact List.mem_map.mpr ⟨below, deeper, same.symm⟩
    · exact .inr (.inr (ih later))

theorem mem_nodes_iff : (names, node) ∈ nodes entries ↔ Leads entries names node := by
  refine ⟨leads_of_mem_nodes, fun leads => ?_⟩
  induction leads with
  | here member => exact mem_nodes_of_entry member (.inl rfl)
  | into member _ ih => exact mem_nodes_of_entry member (.inr ⟨_, ih, rfl⟩)

theorem names_nodes_cons (name : String) (node : LayoutNode) (rest : Entries) :
    (nodes ((name, node) :: rest)).map (·.1) =
      [name] :: ((inside node).map (·.1)).map (name :: ·) ++ (nodes rest).map (·.1) := by
  simp [nodes, Function.comp_def]

theorem exists_entry_of_mem_names (member : names ∈ (nodes entries).map (·.1)) :
    ∃ entry ∈ entries, ∃ below, names = entry.1 :: below := by
  obtain ⟨⟨names, node⟩, found, rfl⟩ := List.mem_map.mp member
  rcases mem_nodes_iff.mp found with ⟨listed⟩ | ⟨listed, _⟩
  · exact ⟨_, listed, [], rfl⟩
  · exact ⟨_, listed, _, rfl⟩

theorem increasing_inside {name : String}
    (into : ∀ inner, node = directory inner → ((nodes inner).map (·.1)).Pairwise (· < ·)) :
    ([name] :: ((inside node).map (·.1)).map (name :: ·)).Pairwise (· < ·) := by
  cases node with
  | file => exact List.pairwise_singleton ..
  | directory inner =>
    rw [List.pairwise_cons, List.pairwise_map]
    refine ⟨?_, (into inner rfl).imp fun below => List.cons_lt_cons_iff.mpr (.inr ⟨rfl, below⟩)⟩
    intro names deeper
    obtain ⟨below, member, rfl⟩ := List.mem_map.mp deeper
    obtain ⟨next, _, behind, rfl⟩ := exists_entry_of_mem_names member
    exact List.cons_lt_cons_iff.mpr (.inr ⟨rfl, List.nil_lt_cons next.1 behind⟩)

theorem increasing_nodes_of_increasing (increasing : entries.Pairwise fun a b => a.1 < b.1)
    (into : ∀ name inner, (name, directory inner) ∈ entries → ((nodes inner).map (·.1)).Pairwise (· < ·)) :
    ((nodes entries).map (·.1)).Pairwise (· < ·) := by
  induction entries with
  | nil => exact .nil
  | cons entry rest ih =>
    obtain ⟨name, node⟩ := entry
    obtain ⟨above, increasing⟩ := List.pairwise_cons.mp increasing
    have here : ([name] :: ((inside node).map (·.1)).map (name :: ·)).Pairwise (· < ·) :=
      increasing_inside fun inner same => into name inner (same ▸ List.mem_cons_self)
    have later : ((nodes rest).map (·.1)).Pairwise (· < ·) :=
      ih increasing fun other inner listed => into other inner (List.mem_cons_of_mem _ listed)
    rw [names_nodes_cons, List.pairwise_append]
    refine ⟨here, later, fun early first late second => ?_⟩
    obtain ⟨entry, listed, below, rfl⟩ := exists_entry_of_mem_names second
    have begins : ∃ below, early = name :: below := by
      rcases List.mem_cons.mp first with rfl | first
      · exact ⟨[], rfl⟩
      · obtain ⟨below, _, rfl⟩ := List.mem_map.mp first
        exact ⟨below, rfl⟩
    obtain ⟨below', rfl⟩ := begins
    exact List.cons_lt_cons_iff.mpr (.inl (above entry listed))

/-- Nodes come in increasing order of the names on the way to them: a directory before what is in it, and all this before
what stands under a greater name. -/
theorem Ordered.increasing_nodes (ordered : Ordered entries) : ((nodes entries).map (·.1)).Pairwise (· < ·) := by
  induction ordered with
  | intro increasing _ ih => exact increasing_nodes_of_increasing increasing ih

/-- Of nodes in increasing order the lower ones stand in front. -/
theorem mem_before_of_lt {before after : List (List String × LayoutNode)} {found other : List String × LayoutNode}
    (increasing : ((before ++ found :: after).map (·.1)).Pairwise (· < ·)) (member : other ∈ before ++ found :: after)
    (lower : other.1 < found.1) : other ∈ before := by
  rw [List.pairwise_map, List.pairwise_append, List.pairwise_cons] at increasing
  rcases List.mem_append.mp member with early | late
  · exact early
  · rcases List.mem_cons.mp late with rfl | later
    · exact absurd lower (List.lt_irrefl _)
    · exact absurd lower (List.lt_asymm (increasing.2.1.1 other later))

theorem lt_append {below : List String} (further : below ≠ []) : names < names ++ below := by
  obtain ⟨next, rest, rfl⟩ := List.exists_cons_of_ne_nil further
  have longer : names ++ [] < names ++ next :: rest := List.append_left_lt (List.nil_lt_cons next rest)
  rwa [List.append_nil] at longer

/-- A directory stands before what is in it. -/
theorem Ordered.pair_sublist_nodes (ordered : Ordered entries) {inner : Entries} {below : List String}
    (leads : Leads entries names (.directory inner)) (further : Leads inner below node) :
    [(names, .directory inner), (names ++ below, node)].Sublist (nodes entries) := by
  obtain ⟨before, after, whole⟩ := List.append_of_mem (mem_nodes_iff.mpr (leads.append further))
  have increasing := ordered.increasing_nodes
  have outer := mem_nodes_iff.mpr leads
  rw [whole] at increasing outer ⊢
  have early : [(names, LayoutNode.directory inner)].Sublist before :=
    List.singleton_sublist.mpr (mem_before_of_lt increasing outer (lt_append further.ne_nil))
  exact early.append (List.singleton_sublist.mpr List.mem_cons_self)

end Nodes

section Texts

variable {entries : Entries} {names : List String} {node : LayoutNode}

theorem shown_singleton (name : String) (node : LayoutNode) : shown [name] node = name ++ node.mark := by
  rw [shown, Path.ofSteps, String.intercalate_singleton]

theorem shown_cons {name : String} (further : names ≠ []) (node : LayoutNode) :
    shown (name :: names) node = name ++ "/" ++ shown names node := by
  rw [shown, Path.ofSteps_cons further, String.append_assoc, shown]

theorem pathsFrom_eq : ∀ (lead : String) (entries : Entries),
    pathsFrom lead entries = (nodes entries).map fun found => lead ++ shown found.1 found.2
  | _, [] => rfl
  | lead, (name, .file) :: rest => by
    rw [pathsFrom, pathsOf, pathsFrom_eq lead rest, nodes, inside]
    simp [shown_singleton, mark]
  | lead, (name, .directory inner) :: rest => by
    have below : ((nodes inner).map fun found => lead ++ name ++ "/" ++ shown found.1 found.2) =
        (nodes inner).map fun found => lead ++ shown (name :: found.1) found.2 := by
      refine List.map_congr_left fun found member => ?_
      rw [shown_cons (leads_of_mem_nodes member).ne_nil, String.append_assoc, String.append_assoc, String.append_assoc]
    rw [pathsFrom, pathsOf, pathsFrom_eq (lead ++ name ++ "/") inner, pathsFrom_eq lead rest, nodes, inside, below]
    simp [shown_singleton, mark, String.append_assoc]

/-- The paths of a layout are those of its nodes, in their order. -/
theorem paths_eq (layout : Layout) : layout.paths = (nodes layout.entries).map fun found => shown found.1 found.2 := by
  rw [Layout.paths, pathsFrom_eq]
  simp only [String.empty_append]

/-- The pieces that the mark of a node adds to those of its names. -/
def closing : LayoutNode → List String
  | .file => []
  | .directory _ => [""]

theorem pieces_shown (nonempty : names ≠ []) (node : LayoutNode) :
    Path.pieces (shown names node) = names.flatMap Path.pieces ++ node.closing := by
  cases node with
  | file => rw [shown, mark, String.append_empty, Path.pieces_ofSteps_eq_flatMap nonempty, closing, List.append_nil]
  | directory inner =>
    have cut := Path.pieces_append_slash (Path.ofSteps names) ""
    rw [String.append_empty, Path.pieces_ofSteps_eq_flatMap nonempty] at cut
    exact cut

/-- Proper names are read off a path piece by piece. -/
theorem pieces_shown_of_stepwise (nonempty : names ≠ []) (proper : ∀ name ∈ names, IsStep name)
    (node : LayoutNode) : Path.pieces (shown names node) = names ++ node.closing := by
  rw [pieces_shown nonempty, Path.flatMap_pieces fun name member => (proper name member).2]

theorem append_closing_inj {names' : List String} {node' : LayoutNode} (proper : ∀ name ∈ names, name ≠ "")
    (proper' : ∀ name ∈ names', name ≠ "") (same : names ++ node.closing = names' ++ node'.closing) :
    names = names' := by
  cases node with
  | file =>
    cases node' with
    | file => simpa only [closing, List.append_nil] using same
    | directory inner =>
      simp only [closing, List.append_nil] at same
      have empty : "" ∈ names := same ▸ List.mem_concat_self
      exact absurd rfl (proper _ empty)
  | directory inner =>
    cases node' with
    | file =>
      simp only [closing, List.append_nil] at same
      have empty : "" ∈ names' := same ▸ List.mem_concat_self
      exact absurd rfl (proper' _ empty)
    | directory inner' => exact List.append_inj_left' same rfl

/-- Different nodes have different paths. -/
theorem Leads.names_eq {names' : List String} {node' : LayoutNode} (stepwise : Named IsStep entries)
    (leads : Leads entries names node) (leads' : Leads entries names' node') (same : shown names node = shown names' node') :
    names = names' := by
  have proper := leads.forall_mem stepwise
  have proper' := leads'.forall_mem stepwise
  have cut := congrArg Path.pieces same
  rw [pieces_shown_of_stepwise leads.ne_nil proper, pieces_shown_of_stepwise leads'.ne_nil proper'] at cut
  exact append_closing_inj (fun name member => (proper name member).1) (fun name member => (proper' name member).1) cut

theorem eq_of_mem_nodes {node' : LayoutNode} (ordered : Ordered entries) (first : (names, node) ∈ nodes entries)
    (second : (names, node') ∈ nodes entries) : node = node' := by
  have distinct : ((nodes entries).map (·.1)).Nodup := Node.nodup_of_increasing ordered.increasing_nodes
  exact congrArg Prod.snd (List.inj_on_of_nodup_map distinct first second rfl)

end Texts

/-- Stores what a path stands for: a directory if it ends in a slash, or else a file. -/
def storePath (entries : Entries) (path : String) : Entries :=
  match (Path.pieces path).reverse with
  | "" :: name :: above => storeAt name (.directory []) above.reverse entries
  | name :: above => storeAt name .file above.reverse entries
  | [] => entries

/-- A node without what is in it. -/
def emptied : LayoutNode → LayoutNode
  | .file => .file
  | .directory _ => .directory []

section Stored

variable {entries held : Entries} {names : List String} {node : LayoutNode}

theorem storePath_shown {above : List String} {name : String}
    (proper : ∀ step ∈ above ++ [name], IsStep step) (node : LayoutNode) :
    storePath entries (shown (above ++ [name]) node) = storeAt name node.emptied above entries := by
  have nonempty : name ≠ "" := (proper name List.mem_concat_self).1
  rw [storePath, pieces_shown_of_stepwise (by simp) proper]
  cases node with
  | file => simp [closing, emptied, nonempty]
  | directory inner => simp [closing, emptied]

theorem storePath_singleton {name : String} (proper : IsStep name) (node : LayoutNode)
    (fresh : held.lookup name = none) :
    storePath held (shown [name] node) = insertEntry name node.emptied held := by
  have steps : ∀ step ∈ [] ++ [name], IsStep step := List.forall_mem_singleton.mpr proper
  rw [← List.nil_append [name], storePath_shown steps, storeAt, store_of_fresh _ fresh]

/-- What is stored below a directory is stored in it. -/
theorem storePath_cons {name : String} {inner : Entries} (further : names ≠ [])
    (proper : ∀ step ∈ name :: names, IsStep step) :
    storePath (insertEntry name (.directory inner) held) (shown (name :: names) node) =
      insertEntry name (.directory (storePath inner (shown names node))) held := by
  obtain ⟨above, last, rfl⟩ := List.eq_nil_or_concat names |>.resolve_left further
  rw [List.concat_eq_append] at proper ⊢
  rw [storePath_shown (List.forall_mem_cons.mp proper).2, ← List.cons_append, storePath_shown proper, storeAt,
    lookup_insertEntry_self]
  exact insertEntry_insertEntry ..

theorem foldl_storePath_inside {name : String} {inner : Entries} {below : List (List String × LayoutNode)}
    (proper : ∀ found ∈ below, found.1 ≠ [] ∧ ∀ step ∈ name :: found.1, IsStep step) :
    (below.map fun found => shown (name :: found.1) found.2).foldl storePath (insertEntry name (.directory inner) held) =
      insertEntry name (.directory ((below.map fun found => shown found.1 found.2).foldl storePath inner)) held := by
  induction below generalizing inner with
  | nil => rfl
  | cons found below ih =>
    obtain ⟨⟨further, steps⟩, others⟩ := List.forall_mem_cons.mp proper
    rw [List.map_cons, List.foldl_cons, storePath_cons further steps, ih others, List.map_cons, List.foldl_cons]

theorem Named.of_mem_nodes (stepwise : Named IsStep entries) {found : List String × LayoutNode}
    (member : found ∈ nodes entries) : found.1 ≠ [] ∧ ∀ step ∈ found.1, IsStep step :=
  ⟨(leads_of_mem_nodes member).ne_nil, (leads_of_mem_nodes member).forall_mem stepwise⟩

/-- The paths of a node and of what is in it put it in its place. -/
theorem foldl_storePath_node {name : String} (fresh : held.lookup name = none) (proper : IsStep name)
    (inner : ∀ entries, node = directory entries → Named IsStep entries ∧
      ((nodes entries).map fun found => shown found.1 found.2).foldl storePath [] = entries) :
    ((inside node).map fun found => shown (name :: found.1) found.2).foldl storePath
      (storePath held (shown [name] node)) = insertEntry name node held := by
  rw [storePath_singleton proper node fresh]
  cases node with
  | file => rfl
  | directory entries =>
    obtain ⟨stepwise, rebuilt⟩ := inner entries rfl
    have steps : ∀ found ∈ nodes entries, found.1 ≠ [] ∧ ∀ step ∈ name :: found.1, IsStep step := by
      intro found member
      obtain ⟨further, below⟩ := stepwise.of_mem_nodes member
      exact ⟨further, List.forall_mem_cons.mpr ⟨proper, below⟩⟩
    rw [emptied, inside, foldl_storePath_inside steps, rebuilt]

theorem foldl_storePath_nodes (increasing : entries.Pairwise fun a b => a.1 < b.1)
    (proper : ∀ entry ∈ entries, IsStep entry.1)
    (inner : ∀ name inner, (name, directory inner) ∈ entries → Named IsStep inner ∧
      ((nodes inner).map fun found => shown found.1 found.2).foldl storePath [] = inner)
    (fresh : ∀ entry ∈ entries, held.lookup entry.1 = none) :
    ((nodes entries).map fun found => shown found.1 found.2).foldl storePath held = insertAll entries held := by
  induction entries generalizing held with
  | nil => rfl
  | cons entry rest ih =>
    obtain ⟨name, node⟩ := entry
    obtain ⟨above, increasing⟩ := List.pairwise_cons.mp increasing
    obtain ⟨here, others⟩ := List.forall_mem_cons.mp fresh
    obtain ⟨named, proper⟩ := List.forall_mem_cons.mp proper
    have first := foldl_storePath_node here named fun entries same => inner name entries (same ▸ List.mem_cons_self)
    have stillFresh : ∀ entry ∈ rest, (insertEntry name node held).lookup entry.1 = none := by
      intro entry member
      rw [lookup_insertEntry_of_ne (String.ne_of_lt (above entry member)).symm]
      exact others entry member
    have later := ih increasing proper (fun other entries member => inner other entries (List.mem_cons_of_mem _ member))
      stillFresh
    rw [nodes, List.map_append, List.map_cons, List.map_map, List.foldl_append, List.foldl_cons, insertAll_cons, ← later,
      ← first]
    rfl

/-- Storing the paths of a layout one after another gives it back. -/
theorem foldl_storePath_shown (ordered : Ordered entries) (stepwise : Named IsStep entries) :
    ((nodes entries).map fun found => shown found.1 found.2).foldl storePath [] = entries := by
  induction ordered with
  | @intro entries increasing _ ih =>
    have inner : ∀ name inner, (name, directory inner) ∈ entries → Named IsStep inner ∧
        ((nodes inner).map fun found => shown found.1 found.2).foldl storePath [] = inner :=
      fun name inner member => ⟨stepwise.inside member, ih name inner member (stepwise.inside member)⟩
    rw [foldl_storePath_nodes increasing stepwise.here inner fun entry _ => List.lookup_nil (a := entry.1)]
    exact insertAll_nil_eq_self increasing

end Stored

end LayoutNode

open LayoutNode

/-- The layout that paths stand for, stored one after another. -/
def Layout.ofPaths (paths : List String) : Layout := ⟨paths.foldl storePath []⟩

namespace Layout

/-- What a list of the paths of a layout gives: every node once, nothing else, and a directory before what is in it. -/
structure ListsNodes (layout : Layout) : Prop where
  listed : ∀ {names node}, Leads layout.entries names node → layout.paths.count (shown names node) = 1
  stands : ∀ path ∈ layout.paths, ∃! found : List String × LayoutNode,
    Leads layout.entries found.1 found.2 ∧ shown found.1 found.2 = path
  nodup : layout.paths.Nodup
  outerFirst : ∀ {names inner below node}, Leads layout.entries names (.directory inner) → Leads inner below node →
    [shown names (.directory inner), shown (names ++ below) node].Sublist layout.paths

variable {layout : Layout}

theorem nodup_paths (ordered : Ordered layout.entries) (stepwise : Named IsStep layout.entries) : layout.paths.Nodup := by
  rw [paths_eq]
  refine List.Nodup.map_on ?_ (List.Nodup.of_map Prod.fst (Node.nodup_of_increasing ordered.increasing_nodes))
  rintro ⟨names, node⟩ first ⟨names', node'⟩ second same
  cases (leads_of_mem_nodes first).names_eq stepwise (leads_of_mem_nodes second) same
  rw [eq_of_mem_nodes ordered first second]

theorem mem_paths_iff {path : String} :
    path ∈ layout.paths ↔ ∃ names node, Leads layout.entries names node ∧ shown names node = path := by
  rw [paths_eq, List.mem_map]
  simp only [Prod.exists, mem_nodes_iff]

theorem listsNodes (ordered : Ordered layout.entries) (stepwise : Named IsStep layout.entries) : ListsNodes layout where
  listed leads := List.count_eq_one_of_mem (nodup_paths ordered stepwise) (mem_paths_iff.mpr ⟨_, _, leads, rfl⟩)
  stands path member := by
    obtain ⟨names, node, leads, rfl⟩ := mem_paths_iff.mp member
    refine ⟨(names, node), ⟨leads, rfl⟩, ?_⟩
    rintro ⟨names', node'⟩ ⟨leads', same⟩
    cases leads'.names_eq stepwise leads same
    exact congrArg (names', ·) (eq_of_mem_nodes ordered (mem_nodes_iff.mpr leads') (mem_nodes_iff.mpr leads))
  nodup := nodup_paths ordered stepwise
  outerFirst leads further := by
    rw [paths_eq]
    exact (ordered.pair_sublist_nodes leads further).map fun found => shown found.1 found.2

theorem ofPaths_paths (ordered : Ordered layout.entries) (stepwise : Named IsStep layout.entries) :
    ofPaths layout.paths = layout := by
  rw [ofPaths, paths_eq, foldl_storePath_shown ordered stepwise]

/-- The paths of a layout list each of its nodes once, directories first, and determine it: it is what comes of storing
them one after another, so that no other layout has the same paths. -/
theorem paths_determine (ordered : Ordered layout.entries) (stepwise : Named IsStep layout.entries) :
    ListsNodes layout ∧ ofPaths layout.paths = layout ∧
      ∀ other : Layout, Ordered other.entries → Named IsStep other.entries → other.paths = layout.paths → other = layout := by
  refine ⟨listsNodes ordered stepwise, ofPaths_paths ordered stepwise, fun other ordered' stepwise' same => ?_⟩
  rw [← ofPaths_paths ordered' stepwise', same, ofPaths_paths ordered stepwise]

/-- A directory and its file, a file and an empty directory whose names begin with that of the directory. -/
def namesakes : Layout := ⟨[("a", .directory [("b", .file)]), ("a.b", .file), ("ab", .directory [])]⟩

theorem of_mem_namesakes {P : Entries → Prop} (file : P [("b", .file)]) (empty : P []) :
    ∀ name inner, (name, LayoutNode.directory inner) ∈ namesakes.entries → P inner := by
  intro name inner member
  simp only [namesakes, List.mem_cons, Prod.mk.injEq, directory.injEq, reduceCtorEq, and_false, List.not_mem_nil,
    or_false, false_or] at member
  rcases member with ⟨_, rfl⟩ | ⟨_, rfl⟩
  · exact file
  · exact empty

theorem paths_of_namesakes :
    Ordered namesakes.entries ∧ Named IsStep namesakes.entries ∧ namesakes.paths = ["a/", "a/b", "a.b", "ab/"] ∧
      ofPaths ["a/", "a/b", "a.b", "ab/"] = namesakes ∧ ListsNodes namesakes ∧
      ∀ other : Layout, Ordered other.entries → Named IsStep other.entries → other.paths = ["a/", "a/b", "a.b", "ab/"] →
        other = namesakes := by
  have ordered : Ordered namesakes.entries := by
    have file : Ordered [("b", .file)] := .intro (by simp) (by simp)
    have empty : Ordered [] := .intro .nil (by simp)
    exact .intro (by decide) (of_mem_namesakes file empty)
  have stepwise : Named IsStep namesakes.entries := by
    have file : Named IsStep [("b", .file)] := .intro (by decide) (by simp)
    have empty : Named IsStep [] := .intro (by simp) (by simp)
    exact .intro (by decide) (of_mem_namesakes file empty)
  have paths : namesakes.paths = ["a/", "a/b", "a.b", "ab/"] := by decide
  obtain ⟨lists, stored, only⟩ := paths_determine ordered stepwise
  rw [paths] at stored only
  exact ⟨ordered, stepwise, paths, stored, lists, only⟩

end Layout

end Plumbline
