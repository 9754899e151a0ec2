import Mathlib.Data.List.Lex
import Plumbline.Proofs.Files.Node

namespace Plumbline.Node

variable {opens : List String → Bool}

/-- A walk of a directory passes its entries and what is in them, but for skipped directories. -/
theorem mem_walk_iff {lead : List String} {entries : List (String × Node)} {passed : List String × Node} :
    passed ∈ walk opens lead entries ↔ ∃ name node, (name, node) ∈ entries ∧ isSkipped name node = false ∧
      (passed = (lead ++ [name], node) ∨ passed ∈ walkInto opens (lead ++ [name]) node) := by
  induction entries with
  | nil => simp [walk]
  | cons entry rest ih =>
    obtain ⟨name, node⟩ := entry
    have here : (passed ∈ if isSkipped name node then []
          else (lead ++ [name], node) :: walkInto opens (lead ++ [name]) node) ↔ isSkipped name node = false ∧
        (passed = (lead ++ [name], node) ∨ passed ∈ walkInto opens (lead ++ [name]) node) := by
      cases isSkipped name node <;> simp
    rw [walk, List.mem_append, here, ih]
    constructor
    · rintro (first | ⟨other, node', listed, later⟩)
      · exact ⟨name, node, List.mem_cons_self, first⟩
      · exact ⟨other, node', List.mem_cons_of_mem _ listed, later⟩
    · rintro ⟨other, node', listed, passes⟩
      rcases List.mem_cons.mp listed with same | later
      · cases same
        exact .inl passes
      · exact .inr ⟨other, node', later, passes⟩

theorem mem_walkInto_directory_iff {lead : List String} {entries : List (String × Node)} {passed : List String × Node} :
    passed ∈ walkInto opens lead (.directory entries) ↔ opens lead = true ∧ passed ∈ walk opens lead entries := by
  rw [walkInto]
  cases opens lead <;> simp

theorem mem_walk {lead : List String} {entries : List (String × Node)} {passed : List String × Node}
    (member : passed ∈ walk opens lead entries) : ∃ name node, (name, node) ∈ entries ∧
      (passed = (lead ++ [name], node) ∨ passed ∈ walkInto opens (lead ++ [name]) node) :=
  let ⟨name, node, listed, _, passes⟩ := mem_walk_iff.mp member
  ⟨name, node, listed, passes⟩

/-- The directories that a walk enters to come by something at a place, that itself included if it is one. -/
def entered (names : List String) : Node → List String
  | .directory _ => names
  | .file _ => names.dropLast

theorem entered_cons {name : String} {names : List String} (further : names ≠ []) (found : Node) :
    entered (name :: names) found = name :: entered names found := by
  cases found with
  | file text => exact List.dropLast_cons_of_ne_nil further
  | directory entries => rfl

theorem isSkipped_eq_false_iff {name : String} {node : Node} :
    isSkipped name node = false ↔ ∀ step ∈ entered [name] node, step ∉ skippedNames := by
  cases node with
  | file text => simp [isSkipped, entered]
  | directory entries => simp [isSkipped, entered]

/-- Whether every directory opens that a walk from a place comes through on the way to something below. -/
def OpensTo (opens : List String → Bool) (lead names : List String) : Prop :=
  ∀ above, above <+: names.dropLast → opens (lead ++ above) = true

theorem opensTo_singleton {lead : List String} {name : String} :
    OpensTo opens lead [name] ↔ opens lead = true := by
  simp [OpensTo]

theorem opensTo_cons {lead names : List String} {name : String} (further : names ≠ []) :
    OpensTo opens lead (name :: names) ↔ opens lead = true ∧ OpensTo opens (lead ++ [name]) names := by
  rw [OpensTo, List.dropLast_cons_of_ne_nil further]
  constructor
  · refine fun all => ⟨?_, fun above before => ?_⟩
    · simpa using all [] List.nil_prefix
    · rw [List.append_assoc, List.singleton_append]
      exact all (name :: above) ((List.prefix_cons_inj name).mpr before)
  · rintro ⟨here, below⟩ above before
    rcases List.prefix_cons_iff.mp before with rfl | ⟨above, rfl, further⟩
    · rwa [List.append_nil]
    · rw [List.append_cons]
      exact below above further

/-- A walk passes what stands anywhere below a directory, unless it would have to enter a directory of a skipped name or
one that does not open. -/
theorem WellFormed.mem_walkInto_iff {node found : Node} {lead names : List String} (formed : node.WellFormed) :
    (names, found) ∈ walkInto opens lead node ↔ ∃ rest, rest ≠ [] ∧ names = lead ++ rest ∧
      node.find? rest = some found ∧ (∀ step ∈ entered rest found, step ∉ skippedNames) ∧ OpensTo opens lead rest := by
  induction formed generalizing lead with
  | file text =>
    refine iff_of_false List.not_mem_nil ?_
    rintro ⟨rest, nonempty, _, there, _⟩
    obtain ⟨name, rest, rfl⟩ := List.exists_cons_of_ne_nil nonempty
    cases there
  | @directory entries increasing _ _ ih =>
    rw [mem_walkInto_directory_iff, mem_walk_iff]
    constructor
    · rintro ⟨here, name, node, listed, unskipped, self | inside⟩
      · cases self
        have there : (Node.directory entries).find? [name] = some found :=
          find?_cons_eq_some.mpr ⟨entries, _, rfl, NameMap.lookup_of_mem increasing listed, rfl⟩
        exact ⟨[name], List.cons_ne_nil _ _, rfl, there, isSkipped_eq_false_iff.mp unskipped, opensTo_singleton.mpr here⟩
      · obtain ⟨rest, nonempty, rfl, leads, free, opened⟩ := (ih _ listed).mp inside
        have there : (Node.directory entries).find? (name :: rest) = some found :=
          find?_cons_eq_some.mpr ⟨entries, _, rfl, NameMap.lookup_of_mem increasing listed, leads⟩
        -- what has something in it is a directory, so that its own name counts
        have unnamed : name ∉ skippedNames := by
          cases node with
          | file text => cases inside
          | directory inner => exact isSkipped_eq_false_iff.mp unskipped name (List.mem_singleton_self name)
        refine ⟨name :: rest, List.cons_ne_nil _ _, by simp, there, ?_, (opensTo_cons nonempty).mpr ⟨here, opened⟩⟩
        rw [entered_cons nonempty]
        exact List.forall_mem_cons.mpr ⟨unnamed, free⟩
    · rintro ⟨rest, nonempty, rfl, there, free, opened⟩
      obtain ⟨name, rest, rfl⟩ := List.exists_cons_of_ne_nil nonempty
      obtain ⟨_, node, same, atName, leads⟩ := find?_cons_eq_some.mp there
      cases same
      have listed := NameMap.mem_of_lookup atName
      by_cases last : rest = []
      · subst last
        cases Option.some.inj leads
        exact ⟨opensTo_singleton.mp opened, name, found, listed, isSkipped_eq_false_iff.mpr free, .inl rfl⟩
      · rw [entered_cons last] at free
        obtain ⟨unnamed, free⟩ := List.forall_mem_cons.mp free
        obtain ⟨here, opened⟩ := (opensTo_cons last).mp opened
        have unskipped : isSkipped name node = false := by
          cases node with
          | file text => rfl
          | directory inner => exact isSkipped_eq_false_iff.mpr (List.forall_mem_singleton.mpr unnamed)
        refine ⟨here, name, node, listed, unskipped, .inr ((ih _ listed).mpr ?_)⟩
        exact ⟨rest, last, by simp, leads, free, opened⟩

/-- What a walk passes stands where its names lead. -/
theorem WellFormed.find?_of_mem_walkInto {node found : Node} {lead names : List String} (formed : node.WellFormed)
    (member : (names, found) ∈ walkInto opens lead node) :
    ∃ name rest, names = lead ++ name :: rest ∧ node.find? (name :: rest) = some found := by
  obtain ⟨rest, nonempty, same, there, _⟩ := formed.mem_walkInto_iff.mp member
  obtain ⟨name, rest, rfl⟩ := List.exists_cons_of_ne_nil nonempty
  exact ⟨name, rest, same, there⟩

theorem WellFormed.names_of_mem_walkInto {node : Node} {lead : List String} {name : String}
    {passed : List String × Node} (formed : node.WellFormed)
    (member : passed = (lead ++ [name], node) ∨ passed ∈ walkInto opens (lead ++ [name]) node) :
    ∃ rest, passed.1 = lead ++ name :: rest := by
  rcases member with rfl | inside
  · exact ⟨[], rfl⟩
  · obtain ⟨next, rest, same, _⟩ := formed.find?_of_mem_walkInto inside
    exact ⟨next :: rest, by rw [same, List.append_assoc, List.singleton_append]⟩

/-- A walk passes things in increasing order of their names, compared one by one: a directory comes before what is in it,
and all of this before what stands under a greater name. -/
theorem WellFormed.increasing_walkInto {node : Node} {lead : List String} (formed : node.WellFormed) :
    ((walkInto opens lead node).map (·.1)).Pairwise (· < ·) := by
  induction formed generalizing lead with
  | file text => exact .nil
  | @directory entries increasing _ below ih =>
    rw [walkInto]
    split
    case isFalse => exact .nil
    clear * - increasing below ih
    induction entries with
    | nil => exact .nil
    | cons entry rest ihRest =>
      obtain ⟨name, node⟩ := entry
      obtain ⟨above, increasing⟩ := List.pairwise_cons.mp increasing
      obtain ⟨formed, below⟩ := List.forall_mem_cons.mp below
      obtain ⟨into, later⟩ := List.forall_mem_cons.mp ih
      have deeper : ∀ passed ∈ walkInto opens (lead ++ [name]) node, lead ++ [name] < passed.1 := by
        intro passed inside
        obtain ⟨next, behind, longer, _⟩ := formed.find?_of_mem_walkInto inside
        rw [longer, ← List.append_nil (lead ++ [name]), List.append_assoc, List.append_assoc]
        exact List.append_left_lt (List.append_left_lt (List.nil_lt_cons next behind))
      have ordered : ∀ passed ∈ (lead ++ [name], node) :: walkInto opens (lead ++ [name]) node,
          ∀ passed' ∈ walk opens lead rest, passed.1 < passed'.1 := by
        intro passed early passed' late
        obtain ⟨behind, begins⟩ := formed.names_of_mem_walkInto (List.mem_cons.mp early)
        obtain ⟨other, node', listed, passes⟩ := mem_walk late
        obtain ⟨behind', begins'⟩ := (below _ listed).names_of_mem_walkInto passes
        rw [begins, begins']
        exact List.append_left_lt (List.cons_lt_cons_iff.mpr (.inl (above (other, node') listed)))
      rw [walk, List.map_append, List.pairwise_append]
      refine ⟨?_, ihRest increasing below later, fun _ early _ late => ?_⟩
      · split
        · exact .nil
        · exact List.pairwise_cons.mpr ⟨List.forall_mem_map.mpr deeper, into⟩
      · obtain ⟨passed, first, rfl⟩ := List.mem_map.mp early
        obtain ⟨passed', second, rfl⟩ := List.mem_map.mp late
        split at first
        · cases first
        · exact ordered passed first passed' second

theorem nodup_of_increasing {names : List (List String)} (increasing : names.Pairwise (· < ·)) : names.Nodup := by
  refine List.nodup_iff_pairwise_ne.mpr (increasing.imp fun below same => ?_)
  rw [same] at below
  exact List.lt_irrefl _ below

/-- A walk passes no two things under the same names. -/
theorem WellFormed.nodup_walkInto {node : Node} {lead : List String} (formed : node.WellFormed) :
    ((walkInto opens lead node).map (·.1)).Nodup := nodup_of_increasing formed.increasing_walkInto

end Plumbline.Node
