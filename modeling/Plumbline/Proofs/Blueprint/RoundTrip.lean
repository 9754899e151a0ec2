import Plumbline.Proofs.Blueprint.Drawing

namespace Plumbline.Diagram

open Text LayoutNode NameMap

/-- A drawing whose path leads through a directory and perhaps further. -/
structure Stands (drawing : Drawing) (parent : List String) (held : Entries) : Prop where
  ordered : Ordered drawing.layout.entries
  onPath : drawing.path.take parent.length = parent
  leads : entriesAt? parent drawing.layout.entries = some held

/-- Lines put entries at a depth if below any directory that has none of their names they add just these to it, and
lead back to it. -/
def Puts (depth : Nat) (entries : Entries) (rows : List (List Char)) : Prop :=
  ∀ ⦃before : Drawing⦄ ⦃parent : List String⦄ ⦃held : Entries⦄, Stands before parent held → parent.length = depth →
    (∀ entry ∈ entries, held.lookup entry.1 = none) →
    (rows.foldl Drawing.step before).layout.entries = alterAt (insertAll entries) parent before.layout.entries ∧
      (rows.foldl Drawing.step before).path.take depth = parent

/-- What holds of every directory still does after a line, if no new entry and no change further down can break it. -/
theorem throughout_step {P : Entries → Prop} {drawing : Drawing} (all : Throughout P drawing.layout.entries)
    (line : List Char) (nothing : P [])
    (adds : ∀ entry entries, entryOf? line = some entry → P entries → P (insertEntry entry.name entry.node entries))
    (changes : ∀ entries step inner changed, P entries → entries.lookup step = some (.directory inner) →
      P (insertEntry step (.directory changed) entries)) : Throughout P (drawing.step line).layout.entries := by
  cases atLine : entryOf? line with
  | none => rwa [step_layout_of_no_entry drawing atLine]
  | some entry =>
    rw [step_of_entry drawing atLine]
    refine all.storeAt _ (fun entries => adds entry entries atLine) changes fun inner same => ?_
    have empty : inner = [] := by
      unfold Entry.node at same
      split at same
      · exact (LayoutNode.directory.inj same).symm
      · simp at same
    rw [empty]
    exact .intro nothing (by simp)

theorem step_ordered {drawing : Drawing} (ordered : Ordered drawing.layout.entries) (line : List Char) :
    Ordered (drawing.step line).layout.entries :=
  throughout_step ordered line .nil (fun _ _ _ increasing => insertEntry_increasing increasing)
    fun _ _ _ _ increasing _ => insertEntry_increasing increasing

theorem foldl_step_ordered {drawing : Drawing} (ordered : Ordered drawing.layout.entries) (rows : List (List Char)) :
    Ordered (rows.foldl Drawing.step drawing).layout.entries :=
  List.foldlRecOn (motive := fun drawing : Drawing => Ordered drawing.layout.entries) rows Drawing.step ordered
    fun _ ordered line _ => step_ordered ordered line

/-- A line with an entry that is new in the directory it goes to puts it there. -/
theorem step_of_fresh {before : Drawing} {parent : List String} {held : Entries} {line : List Char} {entry : Entry}
    (stands : Stands before parent held) (atLine : entryOf? line = some entry) (deep : parent.length = entry.level)
    (fresh : held.lookup entry.name = none) :
    (before.step line).layout.entries =
        alterAt (insertEntry entry.name entry.node) parent before.layout.entries ∧
      (before.step line).path = parent ++ entry.opens := by
  rw [step_of_entry before atLine, ← deep, stands.onPath]
  refine ⟨?_, rfl⟩
  rw [storeAt_eq_alterAt stands.leads]
  exact alterAt_congr stands.leads (store_of_fresh _ fresh)

theorem puts_nothing (depth : Nat) : Puts depth [] [] := by
  intro before parent held stands deep fresh
  exact ⟨(alterAt_eq_self stands.ordered stands.leads rfl).symm, deep ▸ stands.onPath⟩

theorem puts_file {depth : Nat} {lead : List Char} {name : String} (signs : IsLead depth lead)
    (valid : bears name .file) : Puts depth [(name, .file)] [lead ++ name.toList] := by
  intro before parent held stands deep fresh
  obtain ⟨layout, path⟩ := step_of_fresh stands (entryOf?_file signs valid) deep (fresh (name, .file) (by simp))
  refine ⟨layout, ?_⟩
  rw [List.foldl_cons, List.foldl_nil, path, ← deep]
  exact List.take_left

theorem puts_directory {depth : Nat} {lead : List Char} {name : String} {inner : Entries} {below : List (List Char)}
    (signs : IsLead depth lead) (valid : bears name (.directory inner)) (ordered : Ordered inner)
    (inside : Puts (depth + 1) inner below) :
    Puts depth [(name, .directory inner)] ((lead ++ (name.toList ++ ['/'])) :: below) := by
  intro before parent held stands deep fresh
  have atLine := entryOf?_directory signs valid
  obtain ⟨layout, path⟩ := step_of_fresh stands atLine deep (fresh (name, .directory inner) (by simp))
  have opens : (Entry.mk depth name true).opens = [name] := rfl
  have leads : entriesAt? (parent ++ [name]) (before.step (lead ++ (name.toList ++ ['/']))).layout.entries = some [] := by
    rw [layout, entriesAt?_append, entriesAt?_alterAt stands.leads, Option.bind_some, entriesAt?,
      lookup_insertEntry_self]
    rfl
  have standsInside : Stands (before.step (lead ++ (name.toList ++ ['/']))) (parent ++ [name]) [] :=
    ⟨step_ordered stands.ordered _, by rw [path, opens, List.take_length], leads⟩
  obtain ⟨filled, back⟩ := inside standsInside (by simp [deep]) fun entry _ => List.lookup_nil (a := entry.1)
  refine ⟨?_, ?_⟩
  · rw [List.foldl_cons, filled, layout, alterAt_append, alterAt_alterAt]
    refine alterAt_congr stands.leads ?_
    have whole : insertAll inner [] = inner := insertAll_nil_eq_self ordered.here
    simp only [Function.comp_apply, alterAt, lookup_insertEntry_self, Entry.node, if_true, whole,
      insertEntry_insertEntry]
    rfl
  · have shorter := congrArg (List.take depth) back
    rw [List.take_take, Nat.min_eq_left (Nat.le_succ depth), ← deep, List.take_left] at shorter
    rw [List.foldl_cons, ← deep]
    exact shorter

/-- One sibling may follow another, however deep the lines between them went. -/
theorem Puts.append {depth : Nat} {name : String} {node : LayoutNode} {entries : Entries} {first rows : List (List Char)}
    (one : Puts depth [(name, node)] first) (others : Puts depth entries rows) (apart : name ∉ entries.map (·.1)) :
    Puts depth ((name, node) :: entries) (first ++ rows) := by
  intro before parent held stands deep fresh
  obtain ⟨here, below⟩ := List.forall_mem_cons.mp fresh
  obtain ⟨layout, path⟩ := one stands deep fun entry member => by rwa [List.mem_singleton.mp member]
  have leads : entriesAt? parent (first.foldl Drawing.step before).layout.entries =
      some (insertEntry name node held) := by
    rw [layout, entriesAt?_alterAt stands.leads]
    rfl
  have standsNext : Stands (first.foldl Drawing.step before) parent (insertEntry name node held) :=
    ⟨foldl_step_ordered stands.ordered first, deep ▸ path, leads⟩
  have freshNext : ∀ entry ∈ entries, (insertEntry name node held).lookup entry.1 = none := by
    intro entry member
    have different : entry.1 ≠ name := fun same => apart (List.mem_map.mpr ⟨entry, member, same⟩)
    rw [lookup_insertEntry_of_ne different]
    exact below entry member
  obtain ⟨layoutNext, pathNext⟩ := others standsNext deep freshNext
  rw [List.foldl_append, layoutNext, layout, alterAt_alterAt]
  exact ⟨rfl, pathNext⟩

theorem Puts.reordered {depth : Nat} {entries entries' : Entries} {rows : List (List Char)}
    (puts : Puts depth entries rows) (same : entries.Perm entries') (distinct : (entries.map (·.1)).Nodup) :
    Puts depth entries' rows := by
  intro before parent held stands deep fresh
  have fresh' : ∀ entry ∈ entries, held.lookup entry.1 = none := fun entry member => fresh entry (same.mem_iff.mp member)
  obtain ⟨layout, path⟩ := puts stands deep fresh'
  have increasing : held.Pairwise fun a b => a.1 < b.1 := (stands.ordered.entriesAt? stands.leads).here
  refine ⟨?_, path⟩
  rw [layout]
  exact alterAt_congr stands.leads (insertAll_eq_of_perm same distinct fresh' increasing)

theorem puts_of_draws {depth : Nat} {entries : Entries} {rows : List (List Char)} (drawing : Draws depth entries rows)
    (valid : ∀ entry ∈ entries, bears entry.1 entry.2)
    (below : ∀ name inner, (name, directory inner) ∈ entries → Drawable inner ∧ Ordered inner)
    (distinct : (entries.map (·.1)).Nodup) : Puts depth entries rows := by
  induction drawing with
  | nothing => exact puts_nothing _
  | @file depth lead name entries rows signs others ih =>
    obtain ⟨here, rest⟩ := List.forall_mem_cons.mp valid
    obtain ⟨apart, distinct⟩ := List.nodup_cons.mp distinct
    have next := ih rest (fun name inner member => below name inner (List.mem_cons_of_mem _ member)) distinct
    exact (puts_file signs here).append next apart
  | @directory depth lead name inner entries rowsBelow rows signs inside others ihInside ihOthers =>
    obtain ⟨here, rest⟩ := List.forall_mem_cons.mp valid
    obtain ⟨apart, distinct⟩ := List.nodup_cons.mp distinct
    obtain ⟨drawable, ordered⟩ := below name inner (List.mem_cons_self ..)
    have deeper : Puts (depth + 1) inner rowsBelow :=
      ihInside drawable.here (fun name inner member => ⟨drawable.inside member, ordered.inside member⟩)
        (nodup_of_increasing ordered.here)
    have next := ihOthers rest (fun name inner member => below name inner (List.mem_cons_of_mem _ member)) distinct
    exact (puts_directory signs here ordered deeper).append next apart
  | @reordered depth entries entries' rows same drawing ih =>
    have distinct' : (entries.map (·.1)).Nodup := ((same.map _).nodup_iff).mpr distinct
    have puts := ih (fun entry member => valid entry (same.mem_iff.mp member))
      (fun name inner member => below name inner (same.mem_iff.mp member)) distinct'
    exact puts.reordered same distinct'

theorem parse_of_draws {layout : Layout} {text : String} (ordered : Ordered layout.entries)
    (drawable : Drawable layout.entries) (drawing : Draws 0 layout.entries (lines text.toList)) : parse text = layout := by
  have puts := puts_of_draws drawing drawable.here
    (fun name inner member => ⟨drawable.inside member, ordered.inside member⟩) (nodup_of_increasing ordered.here)
  have blank : Stands .blank [] [] := ⟨.intro .nil (by simp [Drawing.blank, Layout.empty]), rfl, rfl⟩
  obtain ⟨filled, _⟩ := puts blank rfl fun entry _ => List.lookup_nil (a := entry.1)
  have whole : (parse text).entries = layout.entries := filled.trans (insertAll_nil_eq_self ordered.here)
  exact congrArg Layout.mk whole

/-- The names of a layout are such as a diagram can yield: all but those with a slash can be drawn. -/
def Yielded : Entries → Prop :=
  Throughout fun entries => ∀ entry ∈ entries, '/' ∉ entry.1.toList → bears entry.1 entry.2

theorem isNameChar_of_entryOf? {line : List Char} {entry : Entry} (atLine : entryOf? line = some entry) :
    ∀ c ∈ entry.name.toList, isNameChar c = true := by
  obtain ⟨⟨level, name⟩, shows, accepted⟩ := Option.bind_eq_some_iff.mp atLine
  have named : ∀ c ∈ name, isNameChar c = true := by
    simp only [shown?] at shows
    split at shows
    · simp at shows
    · obtain ⟨_, rfl⟩ := Prod.mk.inj (Option.some.inj shows)
      exact fun c member => (List.mem_filter.mp member).2
  simp only [accepted?] at accepted
  split at accepted
  · split at accepted
    · cases Option.some.inj accepted
      rw [String.toList_ofList]
      exact fun c member => named c (mem_of_mem_dropRightWhile member)
    · simp at accepted
  · split at accepted
    · cases Option.some.inj accepted
      rw [String.toList_ofList]
      exact named
    · simp at accepted

theorem bears_of_entryOf? {line : List Char} {entry : Entry} (atLine : entryOf? line = some entry)
    (slashless : '/' ∉ entry.name.toList) : bears entry.name entry.node := by
  have plain : isPlain entry.name := by
    simp only [isPlain, List.all_eq_true, Bool.and_eq_true, bne_iff_ne]
    exact fun c member => ⟨isNameChar_of_entryOf? atLine c member, fun same => slashless (same ▸ member)⟩
  obtain ⟨⟨level, name⟩, _, accepted⟩ := Option.bind_eq_some_iff.mp atLine
  simp only [accepted?] at accepted
  split at accepted
  · split at accepted
    · rename_i valid
      cases Option.some.inj accepted
      simp only [Entry.node, if_true, bears, plain, String.toList_ofList, valid, Bool.and_self]
    · simp at accepted
  · split at accepted
    · rename_i valid
      cases Option.some.inj accepted
      simp only [Entry.node, Bool.false_eq_true, if_false, bears, plain, valid, Bool.and_self]
    · simp at accepted

/-- What holds of a directory without entries holds of every directory of a diagram, if no new entry and no change
further down can break it. -/
theorem throughout_parse {P : Entries → Prop} (text : String) (nothing : P [])
    (adds : ∀ line ∈ lines text.toList, ∀ entry entries, entryOf? line = some entry → P entries →
      P (insertEntry entry.name entry.node entries))
    (changes : ∀ entries step inner changed, P entries → entries.lookup step = some (.directory inner) →
      P (insertEntry step (.directory changed) entries)) : Throughout P (parse text).entries := by
  have blank : Throughout P Drawing.blank.layout.entries :=
    .intro nothing fun _ _ member => absurd member List.not_mem_nil
  exact List.foldlRecOn (motive := fun drawing : Drawing => Throughout P drawing.layout.entries) _ Drawing.step blank
    fun _ all line member => throughout_step all line nothing (adds line member) changes

theorem yielded_parse (text : String) : Yielded (parse text).entries := by
  refine throughout_parse text (by simp) ?_ ?_
  · intro line _ new entries atLine here entry member slashless
    rcases mem_insertEntry member with rfl | old
    · exact bears_of_entryOf? atLine slashless
    · exact here entry old slashless
  · intro entries step inner changed here atStep entry member slashless
    rcases mem_insertEntry member with rfl | old
    · exact here (step, directory inner) (mem_of_lookup atStep) slashless
    · exact here entry old slashless

theorem ordered_parse (text : String) : Ordered (parse text).entries :=
  foldl_step_ordered (.intro .nil (by simp [Drawing.blank, Layout.empty])) _

/-- Of the layouts without a slash in a name, just those that can be drawn are the layout of some diagram. -/
theorem exists_parse_eq_iff {layout : Layout}
    (slashless : Throughout (fun entries => ∀ entry ∈ entries, '/' ∉ entry.1.toList) layout.entries) :
    (∃ text, parse text = layout) ↔ Ordered layout.entries ∧ Drawable layout.entries := by
  constructor
  · rintro ⟨text, rfl⟩
    refine ⟨ordered_parse text, (yielded_parse text).both slashless fun entries named apart entry member => ?_⟩
    exact named entry member (apart entry member)
  · rintro ⟨ordered, drawable⟩
    exact ⟨draw layout, parse_of_draws ordered drawable (draws_draw drawable)⟩

/-- Drawing and reading is the identity: every drawing of a layout that can be drawn is read as this layout, whatever
the order of the siblings and the choice of the signs, and so is the one that `draw` makes. -/
theorem parse_draw_and_draws {layout : Layout} (ordered : Ordered layout.entries)
    (drawable : Drawable layout.entries) :
    parse (draw layout) = layout ∧ ∀ text, Draws 0 layout.entries (lines text.toList) → parse text = layout :=
  ⟨parse_of_draws ordered drawable (draws_draw drawable), fun _ drawing => parse_of_draws ordered drawable drawing⟩

/-- A small layout whose diagram below does not keep to the order of the names. -/
def sampleLayout : Layout := ⟨[("app", .directory [(".env", .file), ("core", .directory [("models.py", .file)])])]⟩

theorem parse_sample :
    Ordered sampleLayout.entries ∧ Drawable sampleLayout.entries ∧ parse (draw sampleLayout) = sampleLayout ∧
      parse "app/\n├── core/\n│   └── models.py\n└── .env" = sampleLayout := by
  have ordered : Ordered sampleLayout.entries := by
    have core : Ordered [("models.py", .file)] := .intro (by simp) (by simp)
    have app : Ordered [(".env", .file), ("core", .directory [("models.py", .file)])] :=
      .intro (by decide) (by simpa [Ordered] using core)
    exact .intro (by simp [sampleLayout]) (by simpa [Ordered, sampleLayout] using app)
  have drawable : Drawable sampleLayout.entries := by
    have core : Drawable [("models.py", .file)] := .intro (by decide) (by simp)
    have app : Drawable [(".env", .file), ("core", .directory [("models.py", .file)])] :=
      .intro (by decide) (by simpa [Drawable] using core)
    exact .intro (by decide) (by simpa [Drawable, sampleLayout] using app)
  have other : Draws 0 sampleLayout.entries (lines "app/\n├── core/\n│   └── models.py\n└── .env".toList) := by
    have rows : lines "app/\n├── core/\n│   └── models.py\n└── .env".toList =
        [[] ++ ("app".toList ++ ['/']), [].flatten ++ "├── ".toList ++ ("core".toList ++ ['/']),
          ["│   ".toList].flatten ++ "└── ".toList ++ "models.py".toList,
          [].flatten ++ "└── ".toList ++ ".env".toList] := by decide
    have env : Draws 1 [(".env", .file)] [[].flatten ++ "└── ".toList ++ ".env".toList] :=
      .file (@IsLead.branch [] _ (by decide) (by decide)) .nothing
    have models : Draws 2 [("models.py", .file)] [["│   ".toList].flatten ++ "└── ".toList ++ "models.py".toList] :=
      .file (@IsLead.branch ["│   ".toList] _ (by decide) (by decide)) .nothing
    have app : Draws 1 [(".env", .file), ("core", .directory [("models.py", .file)])]
        [[].flatten ++ "├── ".toList ++ ("core".toList ++ ['/']),
          ["│   ".toList].flatten ++ "└── ".toList ++ "models.py".toList,
          [].flatten ++ "└── ".toList ++ ".env".toList] :=
      .reordered (.swap ..) (.directory (@IsLead.branch [] _ (by decide) (by decide)) models env)
    rw [rows]
    exact .directory .top app .nothing
  obtain ⟨same, all⟩ := parse_draw_and_draws ordered drawable
  exact ⟨ordered, drawable, same, all _ other⟩

/-- A file name that no rule refuses may still hold a character that a diagram does not keep. -/
theorem blank_in_file_name_is_lost :
    isFileName "a b.txt" = true ∧ '/' ∉ "a b.txt".toList ∧ Ordered [("a b.txt", .file)] ∧
      Draws 0 [("a b.txt", .file)] (lines "a b.txt\n".toList) ∧
      (parse "a b.txt\n").paths = ["ab.txt"] ∧ parse "a b.txt\n" ≠ ⟨[("a b.txt", .file)]⟩ := by
  have read : (parse "a b.txt\n").paths = ["ab.txt"] := by decide +kernel
  have rows : lines "a b.txt\n".toList = [[] ++ "a b.txt".toList] := by decide
  refine ⟨by decide, by decide, .intro (by simp) (by simp), ?_, read, ?_⟩
  · rw [rows]
    exact .file .top .nothing
  · intro kept
    rw [kept] at read
    exact absurd read (by decide +kernel)

end Plumbline.Diagram
