import Plumbline.Proofs.Blueprint.Listing
import Plumbline.Proofs.Blueprint.RoundTrip
import Plumbline.Proofs.Blueprint.Siblings

namespace Plumbline

namespace LayoutNode

open NameMap

/-- What stands where names lead from a node, without what is in it. -/
def kindAt? : List String → LayoutNode → Option LayoutNode
  | [], node => some node.emptied
  | _ :: _, .file => none
  | name :: names, .directory entries => (entries.lookup name).bind (kindAt? names)

section Kinds

variable {entries inner found : Entries} {name step : String} {names path : List String} {node kind : LayoutNode}

theorem kindAt?_cons (name : String) (names : List String) (entries : Entries) :
    kindAt? (name :: names) (.directory entries) = (entries.lookup name).bind (kindAt? names) := rfl

theorem kindAt?_cons_of_lookup (there : entries.lookup name = some node) :
    kindAt? (name :: names) (.directory entries) = kindAt? names node := by
  rw [kindAt?_cons, there, Option.bind_some]

theorem shown_emptied (names : List String) (node : LayoutNode) : shown names node.emptied = shown names node := by
  cases node <;> rfl

theorem kindAt?_eq_some_iff (ordered : Ordered entries) (nonempty : names ≠ []) :
    kindAt? names (.directory entries) = some kind ↔ ∃ node, Leads entries names node ∧ node.emptied = kind := by
  induction names generalizing entries with
  | nil => exact absurd rfl nonempty
  | cons name names ih =>
    rw [kindAt?_cons, Option.bind_eq_some_iff]
    by_cases last : names = []
    · subst last
      constructor
      · rintro ⟨node, there, same⟩
        exact ⟨node, .here (mem_of_lookup there), Option.some.inj same⟩
      · rintro ⟨node, ⟨member⟩ | ⟨_, further⟩, rfl⟩
        · exact ⟨node, lookup_of_mem ordered.here member, rfl⟩
        · exact absurd rfl further.ne_nil
    · simp only [leads_cons last]
      constructor
      · rintro ⟨above, there, below⟩
        cases above with
        | file => cases names with
          | nil => exact absurd rfl last
          | cons => cases below
        | directory inner =>
          obtain ⟨node, leads, same⟩ := (ih (ordered.of_lookup there) last).mp below
          exact ⟨node, ⟨inner, mem_of_lookup there, leads⟩, same⟩
      · rintro ⟨node, ⟨inner, member, leads⟩, same⟩
        exact ⟨_, lookup_of_mem ordered.here member, (ih (ordered.inside member) last).mpr ⟨node, leads, same⟩⟩

theorem kindAt?_of_empty (empty : node.emptied = node) : kindAt? names node = some kind ↔ names = [] ∧ kind = node := by
  cases names with
  | nil => simp [kindAt?, empty, eq_comm]
  | cons name names =>
    cases node with
    | file => simp [kindAt?]
    | directory entries =>
      obtain rfl : entries = [] := (LayoutNode.directory.inj empty).symm
      simp [kindAt?]

theorem lookup_store_of_ne {other : String} (different : other ≠ name) :
    (store name node entries).lookup other = entries.lookup other := by
  unfold store
  split
  · rfl
  · exact lookup_insertEntry_of_ne different _ _

/-- Under its name stands what was stored, or what stood there already and is of the same kind. -/
theorem lookup_store_self (empty : node.emptied = node) : ∃ held, (store name node entries).lookup name = some held ∧
    held.emptied = node ∧
      (entries.lookup name = some held ∨ held = node ∧ ∀ old, entries.lookup name = some old → old.emptied ≠ node) := by
  cases stood : entries.lookup name with
  | none => exact ⟨node, by rw [store_of_fresh node stood, lookup_insertEntry_self], empty, .inr ⟨rfl, by simp⟩⟩
  | some old =>
    cases node with
    | file =>
      refine ⟨.file, by simp only [store, lookup_insertEntry_self], rfl, ?_⟩
      cases old with
      | file => exact .inl rfl
      | directory held => exact .inr ⟨rfl, by simp [emptied]⟩
    | directory inner =>
      cases old with
      | file => exact ⟨_, by simp only [store, stood, lookup_insertEntry_self], empty, .inr ⟨rfl, by simp [emptied]⟩⟩
      | directory held => exact ⟨.directory held, by simp only [store, stood], empty, .inl rfl⟩

/-- What stands in the entries of a directory after something is stored there. -/
theorem kindAt?_store (empty : node.emptied = node) :
    kindAt? names (.directory (store name node entries)) = some kind ↔ (names = [name] ∧ kind = node) ∨
      (kindAt? names (.directory entries) = some kind ∧
        ([name] <+: names → kindAt? [name] (.directory entries) = some node)) := by
  cases names with
  | nil => simp [kindAt?, emptied]
  | cons other names =>
    by_cases same : other = name
    · subst same
      obtain ⟨held, there, isKind, kept | ⟨rfl, replaced⟩⟩ := @lookup_store_self entries other _ empty
      · have here : kindAt? [other] (.directory entries) = some node := by
          rw [kindAt?_cons_of_lookup kept, kindAt?, isKind]
        rw [kindAt?_cons_of_lookup there, kindAt?_cons_of_lookup kept, here]
        refine ⟨fun stands => .inr ⟨stands, fun _ => rfl⟩, ?_⟩
        rintro (⟨single, rfl⟩ | ⟨stands, _⟩)
        · rw [(List.cons.inj single).2, kindAt?, isKind]
        · exact stands
      · rw [kindAt?_cons_of_lookup there, kindAt?_of_empty empty]
        constructor
        · rintro ⟨rfl, rfl⟩
          exact .inl ⟨rfl, rfl⟩
        · rintro (⟨single, rfl⟩ | ⟨_, same⟩)
          · exact ⟨(List.cons.inj single).2, rfl⟩
          · obtain ⟨old, stood, isKind⟩ := Option.bind_eq_some_iff.mp (same (by simp))
            exact absurd (Option.some.inj isKind) (replaced old stood)
    · rw [kindAt?_cons, lookup_store_of_ne same, ← kindAt?_cons]
      simp [same, Ne.symm same]

/-- What stands in a layout after something is stored: the new node, and what stood there but for that which stood at
its place as something else, or below. -/
theorem kindAt?_storeAt (leads : entriesAt? path entries = some found) (empty : node.emptied = node) :
    kindAt? names (.directory (storeAt name node path entries)) = some kind ↔ (names = path ++ [name] ∧ kind = node) ∨
      (kindAt? names (.directory entries) = some kind ∧
        (path ++ [name] <+: names → kindAt? (path ++ [name]) (.directory entries) = some node)) := by
  induction path generalizing entries names with
  | nil => exact kindAt?_store empty
  | cons step path ih =>
    obtain ⟨inner, atStep, further⟩ := entriesAt?_cons_eq_some.mp leads
    rw [storeAt, atStep]
    dsimp only
    cases names with
    | nil => simp [kindAt?, emptied]
    | cons other names =>
      by_cases same : other = step
      · subst same
        rw [kindAt?_cons_of_lookup (lookup_insertEntry_self ..), ih further, kindAt?_cons_of_lookup atStep,
          List.cons_append, kindAt?_cons_of_lookup atStep, List.cons_prefix_cons]
        simp
      · rw [kindAt?_cons, lookup_insertEntry_of_ne same, ← kindAt?_cons, List.cons_append, List.cons_prefix_cons]
        simp [same, Ne.symm same]

theorem exists_kindAt?_of_append {below : List String} (stands : kindAt? (names ++ below) node = some kind) :
    ∃ above, kindAt? names node = some above := by
  induction names generalizing node with
  | nil => exact ⟨_, rfl⟩
  | cons name names ih =>
    cases node with
    | file => cases stands
    | directory entries =>
      obtain ⟨next, there, stands⟩ := Option.bind_eq_some_iff.mp stands
      rw [kindAt?_cons_of_lookup there]
      exact ih stands

theorem mark_ne (inner : Entries) : shown names (.directory inner) ≠ shown names .file := by
  intro same
  have lengths := congrArg String.length same
  simp only [shown, mark, String.length_append] at lengths
  exact absurd (Nat.add_left_cancel lengths) (by decide)

/-- The path of a node tells its kind. -/
theorem emptied_eq_of_shown_eq {other : LayoutNode} (same : shown names node = shown names other) :
    node.emptied = other.emptied := by
  cases node with
  | file =>
    cases other with
    | file => rfl
    | directory inner => exact absurd same.symm (mark_ne inner)
  | directory inner =>
    cases other with
    | file => exact absurd same (mark_ne inner)
    | directory inner' => rfl

theorem shown_append {below : List String} (first : names ≠ []) (second : below ≠ []) (node : LayoutNode) :
    shown (names ++ below) node = Path.ofSteps names ++ "/" ++ shown below node := by
  induction names with
  | nil => exact absurd rfl first
  | cons name names ih =>
    rw [List.cons_append, shown_cons (by simp [second])]
    by_cases last : names = []
    · subst last
      rw [List.nil_append, Path.ofSteps, String.intercalate_singleton]
    · rw [ih last, Path.ofSteps_cons last]
      simp only [String.append_assoc]

/-- What stands below a file is shown by a longer path. -/
theorem shown_append_ne {below : List String} (first : names ≠ []) (second : below ≠ []) :
    shown (names ++ below) node ≠ shown names .file := by
  intro same
  have file : shown names .file = Path.ofSteps names := String.append_empty
  rw [shown_append first second, file] at same
  have lengths := congrArg String.length same
  simp only [String.length_append] at lengths
  have slash : "/".length = 1 := by decide
  omega

theorem mem_paths_iff {layout : Layout} (ordered : Ordered layout.entries) {path : String} : path ∈ layout.paths ↔
    ∃ names kind, names ≠ [] ∧ kindAt? names (.directory layout.entries) = some kind ∧ shown names kind = path := by
  simp only [paths_eq, List.mem_map, Prod.exists, mem_nodes_iff]
  constructor
  · rintro ⟨names, node, leads, rfl⟩
    exact ⟨names, node.emptied, leads.ne_nil, (kindAt?_eq_some_iff ordered leads.ne_nil).mpr ⟨node, leads, rfl⟩,
      shown_emptied names node⟩
  · rintro ⟨names, kind, nonempty, stands, rfl⟩
    obtain ⟨node, leads, rfl⟩ := (kindAt?_eq_some_iff ordered nonempty).mp stands
    exact ⟨names, node, leads, (shown_emptied names node).symm⟩

end Kinds

end LayoutNode

namespace Diagram

open LayoutNode Text

section Lines

variable {text line : String} {row : List Char}

theorem step_withoutReturn (drawing : Drawing) (row : List Char) :
    drawing.step (withoutReturn row) = drawing.step row := by
  unfold withoutReturn
  split
  · rename_i ends
    obtain ⟨lead, rfl⟩ := List.getLast?_eq_some_iff.mp ends
    have trimmed : trimEnd (lead ++ ['\r']) = trimEnd lead := dropRightWhile_concat (by decide)
    rw [List.dropLast_concat, Drawing.step, Drawing.step, trimmed]
  · rfl

theorem foldl_step_lines (single : '\n' ∉ row) (drawing : Drawing) :
    (lines row).foldl Drawing.step drawing = drawing.step row := by
  by_cases empty : row = []
  · subst empty
    rfl
  · rw [lines_of_not_feed_mem single empty]
    rfl

/-- A text is its whole lines and what stands behind them. -/
theorem exists_last_line (s : List Char) :
    ∃ lead last, s = lead ++ last ∧ atLineStart lead.getLast? = true ∧ '\n' ∉ last := by
  induction s with
  | nil => exact ⟨[], [], rfl, rfl, List.not_mem_nil⟩
  | cons c s ih =>
    obtain ⟨lead, last, rfl, complete, single⟩ := ih
    cases lead with
    | nil =>
      by_cases feed : c = '\n'
      · exact ⟨[c], last, rfl, by simp [feed, atLineStart], single⟩
      · exact ⟨[], c :: last, rfl, rfl, by simp [Ne.symm feed, single]⟩
    | cons d lead => exact ⟨c :: d :: lead, last, rfl, by simpa [List.getLast?_cons] using complete, single⟩

/-- A text with one more line below it. -/
def followed (text line : String) : String :=
  if atLineStart text.toList.getLast? then text ++ line else text ++ "\n" ++ line

theorem drawn_followed (text : String) (single : '\n' ∉ line.toList) :
    drawn (lines (followed text line).toList) = (drawn (lines text.toList)).step line.toList := by
  rw [followed]
  split
  · rename_i complete
    rw [String.toList_append, lines_append complete, drawn, List.foldl_append, foldl_step_lines single]
    rfl
  · obtain ⟨lead, last, whole, complete, lastSingle⟩ := exists_last_line text.toList
    have shape : (text ++ "\n" ++ line).toList = lead ++ (last ++ '\n' :: line.toList) := by
      simp [whole]
    rw [shape, lines_append complete, lines_append_feed lastSingle, whole, lines_append complete, drawn, drawn,
      List.foldl_append, List.foldl_append, List.foldl_cons, step_withoutReturn, foldl_step_lines single,
      foldl_step_lines lastSingle]

end Lines

/-- A line draws once more, and as the other kind, what names lead to. -/
def Redraws (text line : String) (names : List String) : Prop :=
  ∃ entry node, entryOf? line.toList = some entry ∧ names = place (lines text.toList) entry ++ [entry.name] ∧
    Leads (parse text).entries names node ∧ node.emptied ≠ entry.node

/-- Names that lead to what a line draws once more as the other kind, or to what is in it. -/
def IsOverwritten (text line : String) (names : List String) : Prop :=
  ∃ redrawn, Redraws text line redrawn ∧ redrawn <+: names

theorem Entry.emptied_node (entry : Entry) : entry.node.emptied = entry.node := by
  unfold Entry.node
  split <;> rfl

section Followed

variable {text line : String} {names : List String} {kind : LayoutNode}

theorem kindAt?_followed (single : '\n' ∉ line.toList) :
    kindAt? names (.directory (parse (followed text line)).entries) = some kind ↔
      (∃ entry, entryOf? line.toList = some entry ∧ names = place (lines text.toList) entry ++ [entry.name] ∧
        kind = entry.node) ∨
      (kindAt? names (.directory (parse text).entries) = some kind ∧ ¬ IsOverwritten text line names) := by
  have next : (parse (followed text line)).entries = ((drawn (lines text.toList)).step line.toList).layout.entries :=
    congrArg (fun drawing => drawing.layout.entries) (drawn_followed text single)
  rw [next]
  cases atLine : entryOf? line.toList with
  | none =>
    have kept : ¬ IsOverwritten text line names := by
      rintro ⟨_, ⟨entry, _, shows, _⟩, _⟩
      rw [atLine] at shows
      cases shows
    rw [step_layout_of_no_entry _ atLine]
    refine ⟨fun stands => .inr ⟨stands, kept⟩, ?_⟩
    rintro (⟨_, shows, _⟩ | ⟨stands, _⟩)
    · cases shows
    · exact stands
  | some entry =>
    obtain ⟨found, leads⟩ := rooted_drawn (lines text.toList)
    obtain ⟨inner, leads⟩ := entriesAt?_take leads entry.level
    rw [step_of_entry _ atLine, kindAt?_storeAt leads entry.emptied_node]
    refine or_congr (by simp [place]) (and_congr_right fun stands => ?_)
    have apart : IsOverwritten text line names ↔ place (lines text.toList) entry ++ [entry.name] <+: names ∧
        kindAt? (place (lines text.toList) entry ++ [entry.name]) (.directory (parse text).entries) ≠
          some entry.node := by
      constructor
      · rintro ⟨_, ⟨entry', node, shows, rfl, leads, other⟩, begins⟩
        obtain rfl : entry = entry' := Option.some.inj (atLine.symm.trans shows)
        refine ⟨begins, fun same => other ?_⟩
        rw [(kindAt?_eq_some_iff (ordered_parse text) leads.ne_nil).mpr ⟨node, leads, rfl⟩] at same
        exact Option.some.inj same
      · rintro ⟨begins, other⟩
        obtain ⟨below, rfl⟩ := begins
        obtain ⟨above, there⟩ := exists_kindAt?_of_append stands
        obtain ⟨node, leads, rfl⟩ := (kindAt?_eq_some_iff (ordered_parse text) (by simp)).mp there
        exact ⟨_, ⟨entry, node, atLine, rfl, leads, fun same => other (there.trans (congrArg some same))⟩, below, rfl⟩
    rw [apart, not_and, not_not]
    rfl

/-- What is overwritten does not have the path of the line that overwrites it. -/
theorem shown_ne_of_isOverwritten {entry : Entry} {node : LayoutNode} (atLine : entryOf? line.toList = some entry)
    (leads : Leads (parse text).entries names node) (overwritten : IsOverwritten text line names) :
    shown names node ≠ shown (place (lines text.toList) entry ++ [entry.name]) entry.node := by
  obtain ⟨_, ⟨entry', redrawn, shows, rfl, stood, other⟩, below, rfl⟩ := overwritten
  obtain rfl : entry = entry' := Option.some.inj (atLine.symm.trans shows)
  intro same
  by_cases last : below = []
  · subst last
    rw [List.append_nil] at leads same
    have isRedrawn : node = redrawn :=
      eq_of_mem_nodes (ordered_parse text) (mem_nodes_iff.mpr leads) (mem_nodes_iff.mpr stood)
    exact other (isRedrawn ▸ (emptied_eq_of_shown_eq same).trans entry.emptied_node)
  · obtain ⟨inner, outer⟩ := leads.of_append (by simp) last
    have isDirectory : redrawn = .directory inner :=
      eq_of_mem_nodes (ordered_parse text) (mem_nodes_iff.mpr stood) (mem_nodes_iff.mpr outer)
    have file : entry.node = .file := by
      rw [isDirectory, Entry.node] at other
      rw [Entry.node]
      split at other
      · exact absurd rfl other
      · rename_i plain
        exact if_neg plain
    rw [file] at same
    exact shown_append_ne (by simp) last same

/-- Of the paths of a diagram those are left below one more line that lead to something which the line does not
overwrite: where a name is drawn again as the other kind, all that stood there is gone. So they all are left just when no
name is drawn again in this way. -/
theorem mem_paths_followed_iff {line : String} (single : '\n' ∉ line.toList) (text : String) :
    (∀ path ∈ (parse text).paths, path ∈ (parse (followed text line)).paths ↔
      ∃ names node, Leads (parse text).entries names node ∧ shown names node = path ∧ ¬ IsOverwritten text line names) ∧
    (Named IsStep (parse text).entries → ((∀ path ∈ (parse text).paths, path ∈ (parse (followed text line)).paths) ↔
      ∀ names, ¬ Redraws text line names)) := by
  have kept : ∀ path ∈ (parse text).paths, path ∈ (parse (followed text line)).paths ↔
      ∃ names node, Leads (parse text).entries names node ∧ shown names node = path ∧
        ¬ IsOverwritten text line names := by
    intro path listed
    simp only [paths_eq, List.mem_map, Prod.exists, mem_nodes_iff] at listed
    rw [mem_paths_iff (ordered_parse _)]
    constructor
    · rintro ⟨names, kind, nonempty, stands, rfl⟩
      rcases (kindAt?_followed single).mp stands with ⟨entry, atLine, rfl, rfl⟩ | ⟨stood, kept⟩
      · obtain ⟨names, node, leads, same⟩ := listed
        exact ⟨names, node, leads, same, fun overwritten => shown_ne_of_isOverwritten atLine leads overwritten same⟩
      · obtain ⟨node, leads, rfl⟩ := (kindAt?_eq_some_iff (ordered_parse text) nonempty).mp stood
        exact ⟨names, node, leads, (shown_emptied names node).symm, kept⟩
    · rintro ⟨names, node, leads, rfl, kept⟩
      have stood := (kindAt?_eq_some_iff (ordered_parse text) leads.ne_nil).mpr ⟨node, leads, rfl⟩
      exact ⟨names, _, leads.ne_nil, (kindAt?_followed single).mpr (.inr ⟨stood, kept⟩), shown_emptied names node⟩
  refine ⟨kept, fun stepwise => ⟨fun all redrawn redraws => ?_, fun never path listed => ?_⟩⟩
  · obtain ⟨_, node, _, _, leads, _⟩ := id redraws
    have listed : shown redrawn node ∈ (parse text).paths := by
      rw [paths_eq]
      exact List.mem_map.mpr ⟨_, mem_nodes_iff.mpr leads, rfl⟩
    obtain ⟨names, node', leads', same, kept⟩ := (kept _ listed).mp (all _ listed)
    obtain rfl := Leads.names_eq stepwise leads' leads same
    exact kept ⟨_, redraws, List.prefix_rfl⟩
  · refine (kept path listed).mpr ?_
    simp only [paths_eq, List.mem_map, Prod.exists, mem_nodes_iff] at listed
    obtain ⟨names, node, leads, same⟩ := listed
    exact ⟨names, node, leads, same, fun ⟨redrawn, redraws, _⟩ => never redrawn redraws⟩

end Followed

theorem mem_paths_followed_of_new_name :
    '\n' ∉ "    views.py".toList ∧ Named IsStep (parse "app/\n    models.py\n").entries ∧
      (∀ path ∈ (parse "app/\n    models.py\n").paths,
        path ∈ (parse (followed "app/\n    models.py\n" "    views.py")).paths) ∧
      ∀ names, ¬ Redraws "app/\n    models.py\n" "    views.py" names := by
  have single : '\n' ∉ "    views.py".toList := by decide
  have proper : ∀ line ∈ lines "app/\n    models.py\n".toList, ∀ entry ∈ entryOf? line, IsStep entry.name := by
    decide +kernel
  have stepwise : Named IsStep (parse "app/\n    models.py\n").entries := named_of_entries proper
  have kept : ∀ path ∈ (parse "app/\n    models.py\n").paths,
      path ∈ (parse (followed "app/\n    models.py\n" "    views.py")).paths := by decide +kernel
  exact ⟨single, stepwise, kept, ((mem_paths_followed_iff single _).2 stepwise).mp kept⟩

/-- A directory is lost with all that is in it where a file of its name is drawn below it, and a file where a directory
is. -/
theorem directory_lost_below_file :
    (parse "docs.d/\n    index.md\n").paths = ["docs.d/", "docs.d/index.md"] ∧
      (parse (followed "docs.d/\n    index.md\n" "docs.d")).paths = ["docs.d"] ∧
      (parse "docs.d\n").paths = ["docs.d"] ∧ (parse (followed "docs.d\n" "docs.d/")).paths = ["docs.d/"] := by
  decide +kernel

end Diagram

end Plumbline
