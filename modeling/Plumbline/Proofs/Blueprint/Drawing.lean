import Plumbline.Proofs.Blueprint.Entry

namespace Plumbline.Diagram

open Text LayoutNode NameMap

/-- What stands before an entry for each level above the last: a bar, or nothing but blanks. -/
def guides : List (List Char) := ["│   ".toList, "    ".toList]

/-- What leads from the bar to an entry. -/
def branches : List (List Char) := ["├── ".toList, "└── ".toList]

/-- The signs in front of an entry at a depth. -/
inductive IsLead : Nat → List Char → Prop
  | top : IsLead 0 []
  | branch {before : List (List Char)} {arm : List Char} (bars : ∀ bar ∈ before, bar ∈ guides) (joins : arm ∈ branches) :
      IsLead (before.length + 1) (before.flatten ++ arm)

/-- Lines that draw the entries of a directory at a depth, in any order. What is in a directory comes right below it,
one level deeper. -/
inductive Draws : Nat → Entries → List (List Char) → Prop
  | nothing {depth} : Draws depth [] []
  | file {depth lead name entries rows} (signs : IsLead depth lead) (others : Draws depth entries rows) :
      Draws depth ((name, .file) :: entries) ((lead ++ name.toList) :: rows)
  | directory {depth lead name inner entries below rows} (signs : IsLead depth lead)
      (inside : Draws (depth + 1) inner below) (others : Draws depth entries rows) :
      Draws depth ((name, .directory inner) :: entries) ((lead ++ (name.toList ++ ['/'])) :: (below ++ rows))
  | reordered {depth entries entries' rows} (same : entries.Perm entries') (drawing : Draws depth entries rows) :
      Draws depth entries' rows

/-- Whether a name stands for itself in a diagram. -/
def isPlain (name : String) : Bool := name.toList.all fun c => isNameChar c && c != '/'

/-- Whether a node may bear a name in a diagram. -/
def bears (name : String) : LayoutNode → Bool
  | .file => isPlain name && isFileName name
  | .directory _ => isPlain name && isDirectoryName name.toList

/-- All names of a layout are such that they can be drawn. -/
def Drawable : Entries → Prop := Throughout fun entries => ∀ entry ∈ entries, bears entry.1 entry.2

theorem isGlyph_of_isBlank {c : Char} (blank : isBlank c) : isGlyph c := by simp [isGlyph, blank]

theorem not_isGlyph_of_isNameChar {c : Char} (named : isNameChar c) : isGlyph c = false := by
  by_contra glyph
  simp only [isGlyph, Bool.not_eq_false, Bool.or_eq_true, beq_iff_eq] at glyph
  rcases glyph with (((rfl | rfl) | rfl) | rfl) | blank
  · exact absurd named (by decide +kernel)
  · exact absurd named (by decide +kernel)
  · exact absurd named (by decide +kernel)
  · exact absurd named (by decide +kernel)
  · simp only [isNameChar, not_isAlphanumeric_of_isBlank blank, Bool.false_or, Bool.or_eq_true, beq_iff_eq] at named
    rcases named with ((rfl | rfl) | rfl) | rfl <;> exact absurd blank (by decide)

theorem not_isBlank_of_isNameChar {c : Char} (named : isNameChar c) : isBlank c = false := by
  by_contra blank
  exact absurd (isGlyph_of_isBlank (Bool.of_not_eq_false blank)) (by simp [not_isGlyph_of_isNameChar named])

theorem ne_of_isNameChar {c d : Char} (named : isNameChar c) (strange : isNameChar d = false) : c ≠ d := by
  rintro rfl
  exact absurd named (by simp [strange])

theorem nameOf_eq_self {word : List Char} (named : ∀ c ∈ word, isNameChar c) : nameOf word = word := by
  have noRemark : withoutRemark word = word := by
    unfold withoutRemark
    split
    · rename_i last
      exact absurd rfl (ne_of_isNameChar (named _ (List.mem_of_getLast? last)) (by decide))
    · rfl
  have noComment : withoutComment word = word := by
    refine if_neg ?_
    intro found
    exact absurd rfl (ne_of_isNameChar (named '#' (by simpa using found)) (by decide))
  rw [nameOf, noRemark, noComment, List.filter_eq_self.mpr named]

/-- What holds of the signs a lead is made of holds of the lead. -/
theorem IsLead.forall_mem {p : Char → Bool} {depth : Nat} {lead : List Char} (signs : IsLead depth lead)
    (inGuides : guides.all (·.all p)) (inBranches : branches.all (·.all p)) : ∀ c ∈ lead, p c = true := by
  cases signs with
  | top => simp
  | branch bars joins =>
    intro c member
    rcases List.mem_append.mp member with inBars | inArm
    · obtain ⟨bar, isBar, inBar⟩ := List.mem_flatten.mp inBars
      exact List.all_eq_true.mp (List.all_eq_true.mp inGuides bar (bars bar isBar)) c inBar
    · exact List.all_eq_true.mp (List.all_eq_true.mp inBranches _ joins) c inArm

theorem IsLead.length {depth : Nat} {lead : List Char} (signs : IsLead depth lead) :
    lead.length = depth * levelWidth := by
  cases signs with
  | top => rfl
  | @branch before arm bars joins =>
    have wide : ∀ bar ∈ guides, bar.length = levelWidth := by decide
    have armWide : ∀ arm ∈ branches, arm.length = levelWidth := by decide
    have flat : before.flatten.length = before.length * levelWidth := by
      rw [List.length_flatten, List.map_congr_left fun bar member => wide bar (bars bar member), List.map_const',
        List.sum_replicate_nat]
    rw [List.length_append, flat, armWide arm joins, Nat.succ_mul]

/-- Signs and a word of name characters are read back as what they are. -/
theorem shown?_of_lead {depth : Nat} {lead word : List Char} (signs : IsLead depth lead)
    (named : ∀ c ∈ word, isNameChar c) (nonempty : word ≠ []) (relative : word.head? ≠ some '/') :
    shown? (lead ++ word) = some (depth, word) := by
  have solid : ∀ c ∈ word, isBlank c = false := fun c member => not_isBlank_of_isNameChar (named c member)
  have whole : trimEnd (lead ++ word) = lead ++ word := by
    refine trimEnd_eq_self fun c last => ?_
    rw [List.getLast?_append_of_ne_nil lead nonempty] at last
    exact solid c (List.mem_of_getLast? last)
  have front : (lead ++ word).takeWhile isGlyph = lead := by
    rw [List.takeWhile_append_of_pos (signs.forall_mem (by decide) (by decide))]
    cases word with
    | nil => exact absurd rfl nonempty
    | cons c word => simp [not_isGlyph_of_isNameChar (named c (List.mem_cons_self ..))]
  have notComment : isComment word = false := by
    cases word with
    | nil => exact absurd rfl nonempty
    | cons c word =>
      have notHash : c ≠ '#' := ne_of_isNameChar (named c (List.mem_cons_self ..)) (by decide)
      have notSlash : '/' ≠ c := fun same => relative (congrArg some same.symm)
      simp [isComment, startsWith, after?, notHash, notSlash]
  have measured : lead.length / levelWidth = depth := by
    rw [signs.length]
    exact Nat.mul_div_cancel depth (by decide)
  simp only [shown?, whole, front, List.drop_left, trim_eq_self solid, nameOf_eq_self named, notComment, measured,
    List.isEmpty_eq_false_iff.mpr nonempty, Bool.or_self, Bool.false_eq_true, if_false]

theorem named_of_isPlain {name : String} (plain : isPlain name) : ∀ c ∈ name.toList, isNameChar c ∧ c ≠ '/' := by
  intro c member
  simpa using List.all_eq_true.mp plain c member

theorem entryOf?_file {depth : Nat} {lead : List Char} {name : String} (signs : IsLead depth lead)
    (valid : bears name .file) : entryOf? (lead ++ name.toList) = some ⟨depth, name, false⟩ := by
  obtain ⟨plain, isFile⟩ := Bool.and_eq_true_iff.mp valid
  have named := named_of_isPlain plain
  have nonempty : name.toList ≠ [] := by
    intro empty
    have none : name = "" := String.toList_eq_nil_iff.mp empty
    exact absurd isFile (by rw [none]; decide)
  have relative : name.toList.head? ≠ some '/' := fun first => (named _ (List.mem_of_mem_head? first)).2 rfl
  have noSlash : name.toList.getLast? ≠ some '/' := fun last => (named _ (List.mem_of_getLast? last)).2 rfl
  rw [entryOf?, shown?_of_lead signs (fun c member => (named c member).1) nonempty relative, Option.bind_some]
  simp only [accepted?, noSlash, String.ofList_toList, isFile, if_true, if_false]

theorem entryOf?_directory {depth : Nat} {lead : List Char} {name : String} {inner : Entries}
    (signs : IsLead depth lead) (valid : bears name (.directory inner)) :
    entryOf? (lead ++ (name.toList ++ ['/'])) = some ⟨depth, name, true⟩ := by
  obtain ⟨plain, isDirectory⟩ := Bool.and_eq_true_iff.mp valid
  have named := named_of_isPlain plain
  have nonempty : name.toList ≠ [] := by
    intro empty
    exact absurd isDirectory (by rw [empty]; decide)
  have relative : (name.toList ++ ['/']).head? ≠ some '/' := by
    rw [List.head?_append_of_ne_nil _ nonempty]
    exact fun first => (named _ (List.mem_of_mem_head? first)).2 rfl
  have allNamed : ∀ c ∈ name.toList ++ ['/'], isNameChar c := by
    intro c member
    rcases List.mem_append.mp member with inName | slash
    · exact (named c inName).1
    · rw [List.mem_singleton.mp slash]
      decide
  have bare : dropRightWhile (· == '/') (name.toList ++ ['/']) = name.toList := by
    rw [dropRightWhile_concat (by decide)]
    refine dropRightWhile_eq_self fun c last => ?_
    exact beq_eq_false_iff_ne.mpr (named c (List.mem_of_getLast? last)).2
  rw [entryOf?, shown?_of_lead signs allNamed (by simp) relative, Option.bind_some]
  simp only [accepted?, List.getLast?_concat, bare, isDirectory, String.ofList_toList, if_true]

mutual
/-- The lines of a node: its own behind `lead`, and those of what is in it, each of which begins with `below`. -/
def rowsOf (lead below : List Char) (name : String) : LayoutNode → List (List Char)
  | .file => [lead ++ name.toList]
  | .directory entries => (lead ++ (name.toList ++ ['/'])) :: rowsAmong below entries

/-- The lines of the entries of a directory. The last of them closes the branch. -/
def rowsAmong (below : List Char) : List (String × LayoutNode) → List (List Char)
  | [] => []
  | (name, node) :: rest =>
    if rest.isEmpty then rowsOf (below ++ "└── ".toList) (below ++ "    ".toList) name node ++ rowsAmong below rest
    else rowsOf (below ++ "├── ".toList) (below ++ "│   ".toList) name node ++ rowsAmong below rest
end

/-- The diagram of a layout. -/
def draw (layout : Layout) : String :=
  String.ofList ((layout.entries.flatMap fun entry => rowsOf [] [] entry.1 entry.2).flatMap (· ++ ['\n']))

mutual
theorem draws_rowsOf {bars : List (List Char)} {lead : List Char} (signs : IsLead bars.length lead)
    (all : ∀ bar ∈ bars, bar ∈ guides) (name : String) (node : LayoutNode) {entries : Entries}
    {rows : List (List Char)} (others : Draws bars.length entries rows) :
    Draws bars.length ((name, node) :: entries) (rowsOf lead bars.flatten name node ++ rows) :=
  match node with
  | .file => .file signs others
  | .directory inner => .directory signs (draws_rowsAmong all inner) others

theorem draws_rowsAmong {bars : List (List Char)} (all : ∀ bar ∈ bars, bar ∈ guides) (entries : Entries) :
    Draws (bars.length + 1) entries (rowsAmong bars.flatten entries) :=
  match entries with
  | [] => .nothing
  | (name, node) :: rest => by
    have more : ∀ bar ∈ guides, ∀ other ∈ bars ++ [bar], other ∈ guides := by
      intro bar isGuide other member
      rcases List.mem_append.mp member with old | new
      · exact all other old
      · rwa [List.mem_singleton.mp new]
    have one : ∀ bar ∈ guides, ∀ arm ∈ branches, Draws (bars.length + 1) ((name, node) :: rest)
        (rowsOf (bars.flatten ++ arm) (bars.flatten ++ bar) name node ++ rowsAmong bars.flatten rest) := by
      intro bar isGuide arm isArm
      have signs : IsLead (bars ++ [bar]).length (bars.flatten ++ arm) := by
        rw [List.length_append, List.length_singleton]
        exact .branch all isArm
      have others : Draws (bars ++ [bar]).length rest (rowsAmong bars.flatten rest) := by
        rw [List.length_append, List.length_singleton]
        exact draws_rowsAmong all rest
      simpa using draws_rowsOf signs (more bar isGuide) name node others
    rw [rowsAmong]
    split
    · exact one _ (by decide) _ (by decide)
    · exact one _ (by decide) _ (by decide)
end

/-- No line of a drawing holds half a line break. -/
theorem unbroken_of_draws {depth : Nat} {entries : Entries} {rows : List (List Char)}
    (drawing : Draws depth entries rows) (valid : ∀ entry ∈ entries, bears entry.1 entry.2)
    (below : ∀ name inner, (name, directory inner) ∈ entries → Drawable inner) :
    ∀ row ∈ rows, ∀ c ∈ row, c ≠ '\n' ∧ c ≠ '\r' := by
  have inName : ∀ name node, bears name node → ∀ c ∈ name.toList, c ≠ '\n' ∧ c ≠ '\r' := by
    intro name node valid c member
    have plain : isPlain name := by
      cases node with
      | file => exact (Bool.and_eq_true_iff.mp valid).1
      | directory inner => exact (Bool.and_eq_true_iff.mp valid).1
    have named := (named_of_isPlain plain c member).1
    exact ⟨ne_of_isNameChar named (by decide), ne_of_isNameChar named (by decide)⟩
  have inSigns : ∀ depth lead, IsLead depth lead → ∀ c ∈ lead, c ≠ '\n' ∧ c ≠ '\r' := by
    intro depth lead signs c member
    have kept := signs.forall_mem (p := fun c => c != '\n' && c != '\r') (by decide) (by decide) c member
    simpa using kept
  induction drawing with
  | nothing => simp
  | @file depth lead name entries rows signs others ih =>
    obtain ⟨here, rest⟩ := List.forall_mem_cons.mp valid
    refine List.forall_mem_cons.mpr ⟨?_, ih rest fun name inner member => below name inner (List.mem_cons_of_mem _ member)⟩
    intro c member
    rcases List.mem_append.mp member with inLead | member
    · exact inSigns depth lead signs c inLead
    · exact inName name _ here c member
  | @directory depth lead name inner entries rowsBelow rows signs inside others ihInside ihOthers =>
    obtain ⟨here, rest⟩ := List.forall_mem_cons.mp valid
    have drawable := below name inner (List.mem_cons_self ..)
    have deeper := ihInside drawable.here fun name inner member => drawable.inside member
    have next := ihOthers rest fun name inner member => below name inner (List.mem_cons_of_mem _ member)
    refine List.forall_mem_cons.mpr ⟨?_, List.forall_mem_append.mpr ⟨deeper, next⟩⟩
    intro c member
    rcases List.mem_append.mp member with inLead | member
    · exact inSigns depth lead signs c inLead
    · rcases List.mem_append.mp member with member | slash
      · exact inName name _ here c member
      · rw [List.mem_singleton.mp slash]
        decide
  | @reordered depth entries entries' rows same drawing ih =>
    exact ih (fun entry member => valid entry (same.mem_iff.mp member)) fun name inner member =>
      below name inner (same.mem_iff.mp member)

/-- What `draw` writes is a drawing. -/
theorem draws_draw {layout : Layout} (drawable : Drawable layout.entries) :
    Draws 0 layout.entries (lines (draw layout).toList) := by
  have top : ∀ entries : Entries, Draws 0 entries (entries.flatMap fun entry => rowsOf [] [] entry.1 entry.2) := by
    intro entries
    induction entries with
    | nil => exact .nothing
    | cons entry rest ih => exact @draws_rowsOf [] _ .top (by simp) entry.1 entry.2 rest _ ih
  have drawing := top layout.entries
  have unbroken := unbroken_of_draws drawing drawable.here fun name inner member => drawable.inside member
  have kept : ∀ row ∈ layout.entries.flatMap fun entry => rowsOf [] [] entry.1 entry.2, withoutReturn row = row :=
    fun row member => withoutReturn_eq_self fun last => (unbroken row member _ (List.mem_of_getLast? last)).2 rfl
  rw [draw, String.toList_ofList, lines_flatMap_feed fun row member feed => (unbroken row member _ feed).1 rfl,
    List.map_congr_left kept, List.map_id']
  exact drawing

end Plumbline.Diagram
