import Plumbline.Proofs.Blueprint.Names
import Plumbline.Proofs.Blueprint.Paths
import Plumbline.Proofs.Confinement
import Plumbline.Proofs.Phase.Scaffold

namespace Plumbline

namespace Path

/-- The components of a path. The slash that marks a directory adds none. -/
def components (path : String) : List String :=
  pieces (if path.toList.getLast? = some '/' then String.ofList path.toList.dropLast else path)

/-- A path that leads down from where it starts by proper names, through directories that are listed earlier. -/
structure IsPlaced (earlier : List String) (path : String) : Prop where
  relative : isAbsolute path = false
  proper : ∀ component ∈ components path, IsName component
  through : ∀ lead rest, path = lead ++ "/" ++ rest → rest ≠ "" → lead ++ "/" ∈ earlier

/-- Every path is placed behind those in front of it. -/
def Placed (paths : List String) : Prop :=
  ∀ before path after, paths = before ++ path :: after → IsPlaced before path

theorem mem_pieces {path piece : String} (member : piece ∈ pieces path) : piece = "" ∨ piece ∈ components path := by
  rw [components]
  split
  · rename_i slashed
    obtain ⟨lead, whole⟩ := List.getLast?_eq_some_iff.mp slashed
    have cut := pieces_append_slash (String.ofList lead) ""
    have same : path = String.ofList lead ++ "/" ++ "" := by
      rw [← String.toList_inj, whole]
      simp
    rw [whole, List.dropLast_concat]
    rw [same, cut, List.mem_append] at member
    exact member.symm.imp_left List.mem_singleton.mp
  · exact .inr member

theorem IsPlaced.isPlain {earlier : List String} {path : String} (placed : IsPlaced earlier path) : IsPlain path := by
  refine ⟨placed.relative, fun up => ?_⟩
  rcases mem_pieces up with empty | component
  · exact absurd empty (by decide)
  · exact (placed.proper _ component).2.2.1 rfl

theorem Placed.forall_isPlain {paths : List String} (placed : Placed paths) : ∀ path ∈ paths, IsPlain path := by
  intro path member
  obtain ⟨before, after, whole⟩ := List.append_of_mem member
  exact (placed before path after whole).isPlain

/-- Of two slashes in one text one comes first, if they are not the same. -/
theorem cut_cases {first rest lead tail : String} (same : first ++ "/" ++ rest = lead ++ "/" ++ tail) :
    (∃ between, first = lead ++ "/" ++ between) ∨ (first = lead ∧ rest = tail) ∨
      ∃ between, lead = first ++ "/" ++ between ∧ rest = between ++ "/" ++ tail := by
  have chars : first.toList ++ '/' :: rest.toList = lead.toList ++ '/' :: tail.toList := by
    have both := congrArg String.toList same
    simpa using both
  rcases List.append_eq_append_iff.mp chars with ⟨between, whole, behind⟩ | ⟨between, whole, behind⟩
  · cases between with
    | nil =>
      rw [List.append_nil, String.toList_inj] at whole
      have further : rest.toList = tail.toList := (List.cons.inj behind).2
      exact .inr (.inl ⟨whole.symm, String.toList_inj.mp further⟩)
    | cons c between =>
      obtain ⟨rfl, further⟩ := List.cons.inj behind
      refine .inr (.inr ⟨String.ofList between, ?_, ?_⟩)
      · rw [← String.toList_inj, whole]
        simp
      · rw [← String.toList_inj, further]
        simp
  · cases between with
    | nil =>
      rw [List.append_nil, String.toList_inj] at whole
      have further : tail.toList = rest.toList := (List.cons.inj behind).2
      exact .inr (.inl ⟨whole, String.toList_inj.mp further.symm⟩)
    | cons c between =>
      obtain ⟨rfl, -⟩ := List.cons.inj behind
      refine .inl ⟨String.ofList between, ?_⟩
      rw [← String.toList_inj, whole]
      simp

theorem ofSteps_concat_append_slash (above : List String) (lead rest : String) :
    ofSteps (above ++ [lead ++ "/" ++ rest]) = ofSteps (above ++ [lead]) ++ "/" ++ rest := by
  induction above with
  | nil => simp [ofSteps, String.intercalate_singleton]
  | cons name above ih =>
    rw [List.cons_append, List.cons_append, ofSteps_cons (by simp), ofSteps_cons (by simp), ih]
    simp [String.append_assoc]

theorem getLast?_ofSteps {above : List String} {name : String} (nonempty : name ≠ "") :
    (ofSteps (above ++ [name])).toList.getLast? = name.toList.getLast? := by
  have chars : name.toList ≠ [] := fun empty => nonempty (String.toList_eq_nil_iff.mp empty)
  induction above with
  | nil => rw [List.nil_append, ofSteps, String.intercalate_singleton]
  | cons step above ih =>
    have further : (ofSteps (above ++ [name])).toList ≠ [] := by
      intro empty
      rw [empty] at ih
      exact chars (List.getLast?_eq_none_iff.mp ih.symm)
    rw [List.cons_append, ofSteps_cons (by simp), String.toList_append, List.getLast?_append_of_ne_nil _ further, ih]

end Path

namespace LayoutNode

open Plumbline.Path

/-- A name that does not end in a slash, as a line with an entry shows one. -/
def IsBare (name : String) : Prop := name ≠ "" ∧ name.toList.getLast? ≠ some '/'

/-- A name below directories does no harm to the paths it is part of: between its slashes are proper names, and where it
has a slash it goes on from something that is listed earlier, under lower names. -/
structure NameStands (entries : Entries) (above : List String) (name : String) : Prop where
  proper : ∀ piece ∈ pieces name, IsName piece
  led : ∀ lead rest, name = lead ++ "/" ++ rest → ∃ names node, Leads entries names node ∧ names < above ++ [name] ∧
    shown names node = ofSteps (above ++ [lead]) ++ "/"

/-- All names of a layout do no harm. -/
def NamesStand (entries : Entries) : Prop :=
  ∀ above name node, Leads entries (above ++ [name]) node → NameStands entries above name

section Shown

variable {names : List String} {node : LayoutNode}

theorem components_shown (nonempty : names ≠ []) (ends : ∀ name ∈ names, IsBare name) (node : LayoutNode) :
    components (shown names node) = names.flatMap pieces := by
  obtain ⟨above, last, rfl⟩ := List.eq_nil_or_concat names |>.resolve_left nonempty
  rw [List.concat_eq_append] at nonempty ends ⊢
  obtain ⟨named, ends⟩ := ends last List.mem_concat_self
  cases node with
  | file =>
    rw [shown, mark, String.append_empty, components, getLast?_ofSteps named, if_neg ends,
      pieces_ofSteps_eq_flatMap nonempty]
  | directory inner =>
    have slash : (shown (above ++ [last]) (.directory inner)).toList = (ofSteps (above ++ [last])).toList ++ ['/'] := by
      rw [shown, mark, String.toList_append]
      rfl
    rw [components, slash, if_pos (by simp), List.dropLast_concat, String.ofList_toList,
      pieces_ofSteps_eq_flatMap nonempty]

/-- A slash with something behind it in the path of a node ends a name on the way to it, or stands in one. -/
theorem exists_cut (nonempty : names ≠ []) {lead rest : String} (cut : shown names node = lead ++ "/" ++ rest)
    (further : rest ≠ "") :
    (∃ above below, above ≠ [] ∧ below ≠ [] ∧ names = above ++ below ∧ lead = ofSteps above) ∨
      ∃ above name below before behind, names = above ++ name :: below ∧ name = before ++ "/" ++ behind ∧
        lead = ofSteps (above ++ [before]) := by
  induction names generalizing lead with
  | nil => exact absurd rfl nonempty
  | cons name names ih =>
    by_cases last : names = []
    · subst last
      rw [shown_singleton] at cut
      cases node with
      | file =>
        rw [mark, String.append_empty] at cut
        exact .inr ⟨[], name, [], lead, rest, rfl, cut, (String.intercalate_singleton).symm⟩
      | directory inner =>
        have closed : name ++ "/" ++ "" = lead ++ "/" ++ rest := (String.append_empty).trans cut
        rcases cut_cases closed with ⟨between, whole⟩ | ⟨_, empty⟩ | ⟨between, _, empty⟩
        · exact .inr ⟨[], name, [], lead, between, rfl, whole, (String.intercalate_singleton).symm⟩
        · exact absurd empty.symm further
        · rw [← String.toList_inj] at empty
          simp at empty
    · -- The slash stands in the first name, right behind it, or further on.
      rw [shown_cons last] at cut
      rcases cut_cases cut with ⟨between, whole⟩ | ⟨same, _⟩ | ⟨between, whole, behind⟩
      · exact .inr ⟨[], name, names, lead, between, rfl, whole, (String.intercalate_singleton).symm⟩
      · exact .inl ⟨[name], names, by simp, last, rfl, same.symm.trans (String.intercalate_singleton).symm⟩
      · rcases ih last behind with ⟨above, below, first, second, rfl, led⟩ |
          ⟨above, other, below, first, second, rfl, inside, led⟩
        · exact .inl ⟨name :: above, below, by simp, second, rfl, by rw [whole, led, ofSteps_cons first]⟩
        · refine .inr ⟨name :: above, other, below, first, second, rfl, inside, ?_⟩
          rw [whole, led, List.cons_append, ofSteps_cons (by simp)]

end Shown

section Placed

variable {entries : Entries} {names : List String} {node : LayoutNode}

theorem NameStands.of_isName {above : List String} {name : String} (proper : IsName name) :
    NameStands entries above name where
  proper piece member := by
    rw [pieces_of_slashless proper.2.2.2] at member
    exact List.mem_singleton.mp member ▸ proper
  led lead rest cut := by
    refine absurd ?_ proper.2.2.2
    rw [cut]
    simp

/-- Listed in front of a node is what has lower names. -/
theorem mem_earlier_iff (ordered : Ordered entries) {before after : List (List String × LayoutNode)}
    (whole : nodes entries = before ++ (names, node) :: after) {path : String} :
    path ∈ (before.map fun found => shown found.1 found.2) ↔
      ∃ names' node', Leads entries names' node' ∧ names' < names ∧ shown names' node' = path := by
  have increasing := ordered.increasing_nodes
  rw [whole] at increasing
  simp only [List.mem_map, Prod.exists]
  constructor
  · rintro ⟨names', node', member, rfl⟩
    refine ⟨names', node', mem_nodes_iff.mp (whole ▸ List.mem_append_left _ member), ?_, rfl⟩
    rw [List.pairwise_map, List.pairwise_append] at increasing
    exact increasing.2.2 _ member _ List.mem_cons_self
  · rintro ⟨names', node', leads, lower, rfl⟩
    refine ⟨names', node', mem_before_of_lt increasing ?_ lower, rfl⟩
    exact whole ▸ mem_nodes_iff.mpr leads

theorem NamesStand.of_append_cons (stand : NamesStand entries) {above below : List String} {name : String}
    (leads : Leads entries (above ++ name :: below) node) : NameStands entries above name := by
  by_cases last : below = []
  · exact stand above name node (last ▸ leads)
  · have further : Leads entries (above ++ [name] ++ below) node := by simpa using leads
    obtain ⟨inner, outer⟩ := further.of_append (by simp) last
    exact stand above name _ outer

theorem isAbsolute_shown (nonempty : names ≠ []) (proper : ∀ piece ∈ names.flatMap pieces, IsName piece)
    (node : LayoutNode) : isAbsolute (shown names node) = false := by
  by_contra absolute
  have head := head?_pieces_of_isAbsolute ((Bool.not_eq_false _).mp absolute)
  obtain ⟨name, names, rfl⟩ := List.exists_cons_of_ne_nil nonempty
  obtain ⟨piece, pieces', cut⟩ := List.exists_cons_of_ne_nil (pieces_ne_nil name)
  rw [List.flatMap_cons, cut] at proper
  rw [pieces_shown nonempty, List.flatMap_cons, cut] at head
  exact (proper piece List.mem_cons_self).1 (Option.some.inj head)

theorem NamesStand.isPlaced (stand : NamesStand entries) (ordered : Ordered entries) (ends : Named IsBare entries)
    {before after : List (List String × LayoutNode)} (whole : nodes entries = before ++ (names, node) :: after) :
    IsPlaced (before.map fun found => shown found.1 found.2) (shown names node) := by
  have leads : Leads entries names node := mem_nodes_iff.mp (whole ▸ List.mem_append_right _ List.mem_cons_self)
  have proper : ∀ piece ∈ names.flatMap pieces, IsName piece := by
    intro piece member
    obtain ⟨name, listed, inName⟩ := List.mem_flatMap.mp member
    obtain ⟨above, below, rfl⟩ := List.append_of_mem listed
    exact (stand.of_append_cons leads).proper piece inName
  refine ⟨?_, ?_, fun lead rest cut further => (mem_earlier_iff ordered whole).mpr ?_⟩
  · exact isAbsolute_shown leads.ne_nil proper node
  · rwa [components_shown leads.ne_nil (leads.forall_mem ends)]
  · -- A slash between two names ends a directory that leads to the node; only one within a name asks for more.
    rcases exists_cut leads.ne_nil cut further with ⟨above, below, first, second, rfl, rfl⟩ |
      ⟨above, name, below, first, behind, rfl, inside, rfl⟩
    · obtain ⟨inner, outer⟩ := leads.of_append first second
      exact ⟨above, .directory inner, outer, lt_append second, rfl⟩
    · obtain ⟨names', node', listed, lower, same⟩ := (stand.of_append_cons leads).led first behind inside
      refine ⟨names', node', listed, ?_, same⟩
      by_cases last : below = []
      · rwa [last]
      · have longer : names' < above ++ [name] ++ below := List.lt_trans lower (lt_append last)
        rwa [List.append_assoc, List.singleton_append] at longer

theorem placed_paths_iff {layout : Layout} (ordered : Ordered layout.entries) (ends : Named IsBare layout.entries) :
    Placed layout.paths ↔ NamesStand layout.entries := by
  constructor
  · intro placed above name node leads
    obtain ⟨before, after, whole⟩ := List.append_of_mem (mem_nodes_iff.mpr leads)
    have here := placed _ (shown (above ++ [name]) node) (after.map fun found => shown found.1 found.2)
      (by rw [paths_eq, whole, List.map_append, List.map_cons])
    have bare : IsBare name := leads.forall_mem ends name List.mem_concat_self
    refine ⟨fun piece member => here.proper piece ?_, fun lead rest cut => ?_⟩
    · rw [components_shown leads.ne_nil (leads.forall_mem ends), List.flatMap_append, List.flatMap_singleton]
      exact List.mem_append_right _ member
    · have behind : shown (above ++ [name]) node = ofSteps (above ++ [lead]) ++ "/" ++ (rest ++ node.mark) := by
        rw [shown, cut, ofSteps_concat_append_slash, String.append_assoc]
      have further : rest ++ node.mark ≠ "" := by
        intro empty
        rw [String.append_eq_empty_iff] at empty
        refine bare.2 ?_
        rw [cut, empty.1]
        simp
      exact (mem_earlier_iff ordered whole).mp (here.through _ _ behind further)
  · intro stand before path after whole
    rw [paths_eq] at whole
    obtain ⟨first, second, split, rfl, same⟩ := List.map_eq_append_iff.mp whole
    obtain ⟨⟨names, node⟩, rest, rfl, rfl, -⟩ := List.map_eq_cons_iff.mp same
    exact stand.isPlaced ordered ends split

end Placed

end LayoutNode

namespace Diagram

open LayoutNode Plumbline.Path Text

theorem isBare_ofList {chars : List Char} (nonempty : chars ≠ []) (ends : chars.getLast? ≠ some '/') :
    IsBare (String.ofList chars) := by
  rw [IsBare, String.toList_ofList]
  exact ⟨fun empty => nonempty (String.ofList_eq_empty_iff.mp empty), ends⟩

theorem isBare_of_entryOf? {line : List Char} {entry : Entry} (atLine : entryOf? line = some entry) :
    IsBare entry.name := by
  obtain ⟨⟨level, name⟩, _, accepted⟩ := Option.bind_eq_some_iff.mp atLine
  simp only [accepted?] at accepted
  split at accepted
  · split at accepted
    · rename_i valid
      cases Option.some.inj accepted
      refine isBare_ofList (fun empty => ?_) fun last => absurd (of_getLast?_dropRightWhile last) (by decide)
      rw [empty] at valid
      exact absurd valid (by decide)
    · cases accepted
  · rename_i ends
    split at accepted
    · rename_i valid
      cases Option.some.inj accepted
      refine isBare_ofList (fun empty => ?_) ends
      rw [empty] at valid
      exact absurd valid (by decide)
    · cases accepted

theorem isBare_parse (text : String) : Named IsBare (parse text).entries :=
  named_of_entries fun _ _ _ atLine => isBare_of_entryOf? atLine

theorem placed_of_names {text : String}
    (proper : ∀ line ∈ lines text.toList, ∀ entry ∈ entryOf? line, IsName entry.name) : Placed (parse text).paths := by
  have named : Named IsName (parse text).entries := named_of_entries proper
  refine (placed_paths_iff (ordered_parse text) (isBare_parse text)).mpr fun above name node leads => ?_
  exact .of_isName (leads.forall_mem named name List.mem_concat_self)

/-- A directory is listed in front of what is in it, whatever their names are. -/
theorem pair_sublist_paths {text : String} {names below : List String} {inner : Entries} {node : LayoutNode}
    (leads : Leads (parse text).entries names (.directory inner)) (further : Leads inner below node) :
    [shown names (.directory inner), shown (names ++ below) node].Sublist (parse text).paths := by
  rw [paths_eq]
  exact ((ordered_parse text).pair_sublist_nodes leads further).map fun found => shown found.1 found.2

end Diagram

namespace Scaffold

theorem isPlain_of_mem_layoutRules {spec : Specification} {rule : Rule} (placed : Path.Placed spec.layout.paths)
    (member : rule ∈ layoutRules spec) : rule.check.IsPlain := by
  cases Rule.eq_of_mem_given member
  exact placed.forall_isPlain

end Scaffold

namespace Diagram

open LayoutNode Plumbline.Path Text

/-- A directory of a diagram is listed in front of what is in it. All paths lead down by proper names, through
directories that are listed in front of them, just when the names of the entries do no harm, and so they do when these
are proper themselves. Then the rule that asks for the paths looks nowhere but below the root. -/
theorem placed_paths (text : String) :
    (∀ names inner below node, Leads (parse text).entries names (.directory inner) → Leads inner below node →
      [shown names (.directory inner), shown (names ++ below) node].Sublist (parse text).paths) ∧
    (Placed (parse text).paths ↔ NamesStand (parse text).entries) ∧
    ((∀ line ∈ lines text.toList, ∀ entry ∈ entryOf? line, IsName entry.name) → Placed (parse text).paths) ∧
    (Placed (parse text).paths → ∀ spec : Specification, spec.layout = parse text → ∀ rule ∈ Scaffold.layoutRules spec,
      ∀ a b : Site, a.WellFormed → b.WellFormed → a.Agrees b → rule.check.run a = rule.check.run b) := by
  refine ⟨fun _ _ _ _ => pair_sublist_paths, placed_paths_iff (ordered_parse text) (isBare_parse text),
    placed_of_names, ?_⟩
  intro placed spec drawn rule member a b formed formed' agree
  have plain : rule.check.IsPlain := Scaffold.isPlain_of_mem_layoutRules (drawn ▸ placed) member
  exact CheckSpec.run_eq_of_not_reachesOut agree formed formed' (CheckSpec.not_reachesOut_of_isPlain formed plain)
    (CheckSpec.not_reachesOut_of_isPlain formed' plain)

theorem placed_paths_of_sample :
    (∀ line ∈ lines "app/\n├── core/\n│   └── models.py\n└── .env\n".toList, ∀ entry ∈ entryOf? line, IsName entry.name) ∧
      Placed ["app/", "app/.env", "app/core/", "app/core/models.py"] ∧
      ∀ spec : Specification, spec.layout = parse "app/\n├── core/\n│   └── models.py\n└── .env\n" →
        ∀ rule ∈ Scaffold.layoutRules spec, rule.check.run Site.accompanied = rule.check.run Site.alone := by
  have proper : ∀ line ∈ lines "app/\n├── core/\n│   └── models.py\n└── .env\n".toList, ∀ entry ∈ entryOf? line,
      IsName entry.name := by decide +kernel
  have listed : (parse "app/\n├── core/\n│   └── models.py\n└── .env\n").paths =
      ["app/", "app/.env", "app/core/", "app/core/models.py"] := by decide +kernel
  obtain ⟨_, _, placed, below⟩ := placed_paths "app/\n├── core/\n│   └── models.py\n└── .env\n"
  have placed := placed proper
  have formed := Site.wellFormed_accompanied
  have agree : Site.accompanied.Agrees Site.alone := Site.stripped_accompanied ▸ Site.agrees_stripped
  refine ⟨proper, listed ▸ placed, fun spec drawn rule member => ?_⟩
  exact below placed spec drawn rule member _ _ formed (Site.stripped_accompanied ▸ formed.stripped) agree

/-- A path on one line may begin at the root, go up, or pass through a directory that is not listed. -/
theorem one_line_paths_not_placed :
    ¬ Placed (parse "/etc/app.conf\n").paths ∧ ¬ Placed (parse "../x.md\n").paths ∧
      ¬ Placed (parse "docs/guide.md\n").paths := by
  have absolute : (parse "/etc/app.conf\n").paths = [] ++ ["/etc/app.conf"] := by decide +kernel
  have upward : (parse "../x.md\n").paths = [] ++ ["../x.md"] := by decide +kernel
  have through : (parse "docs/guide.md\n").paths = [] ++ ["docs/guide.md"] := by decide +kernel
  refine ⟨fun placed => ?_, fun placed => ?_, fun placed => ?_⟩
  · exact absurd (placed _ _ _ absolute).relative (by decide)
  · exact absurd (placed _ _ _ upward).isPlain (by decide)
  · exact absurd ((placed _ _ _ through).through "docs" "guide.md" (by decide) (by decide)) (by decide)

end Diagram

end Plumbline
