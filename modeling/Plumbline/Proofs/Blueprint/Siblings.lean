import Plumbline.Proofs.Blueprint.Entry

namespace Plumbline.Diagram

open Text LayoutNode

/-- The drawing after the lines from the top. -/
def drawn (rows : List (List Char)) : Drawing := rows.foldl Drawing.step .blank

/-- The names of the directories that lead to where an entry goes that comes next. -/
def place (rows : List (List Char)) (entry : Entry) : List String := (drawn rows).path.take entry.level

/-- Whether a layout holds an entry in the directory that a path of names leads to. -/
def Holds (layout : Layout) (path : List String) (entry : Entry) : Prop :=
  ∃ inner node, entriesAt? path layout.entries = some inner ∧ inner.lookup entry.name = some node ∧
    (entry.isDirectory ↔ ∃ held, node = .directory held)

theorem drawn_concat (rows : List (List Char)) (line : List Char) : drawn (rows ++ [line]) = (drawn rows).step line := by
  simp [drawn]

theorem entriesAt?_take {path : List String} {entries found : Entries} (leads : entriesAt? path entries = some found)
    (n : Nat) : ∃ inner, entriesAt? (path.take n) entries = some inner := by
  rw [← List.take_append_drop n path, entriesAt?_append] at leads
  obtain ⟨inner, leads, _⟩ := Option.bind_eq_some_iff.mp leads
  exact ⟨inner, leads⟩

/-- An entry is there once it is stored. The directory kept in its place, if there is one, is of its kind. -/
theorem lookup_store (entry : Entry) (entries : Entries) :
    ∃ node, (store entry.name entry.node entries).lookup entry.name = some node ∧
      (entry.isDirectory ↔ ∃ held, node = .directory held) := by
  unfold store
  split
  · rename_i inner held isDirectory atName
    refine ⟨.directory held, atName, ?_⟩
    cases directory : entry.isDirectory with
    | true => simp
    | false => simp [Entry.node, directory] at isDirectory
  · refine ⟨entry.node, NameMap.lookup_insertEntry_self .., ?_⟩
    cases directory : entry.isDirectory with
    | true => simp [Entry.node, directory]
    | false => simp [Entry.node, directory]

/-- The path leads to a directory of the layout. -/
def Rooted (drawing : Drawing) : Prop := ∃ inner, entriesAt? drawing.path drawing.layout.entries = some inner

theorem holds_step {drawing : Drawing} {line : List Char} {entry : Entry} (rooted : Rooted drawing)
    (atLine : entryOf? line = some entry) :
    Holds (drawing.step line).layout (drawing.path.take entry.level) entry := by
  obtain ⟨_, leads⟩ := rooted
  obtain ⟨inner, leads⟩ := entriesAt?_take leads entry.level
  obtain ⟨node, atName, kind⟩ := lookup_store entry inner
  rw [step_of_entry drawing atLine, Holds, storeAt_eq_alterAt leads]
  exact ⟨store entry.name entry.node inner, node, entriesAt?_alterAt leads, atName, kind⟩

theorem Rooted.step {drawing : Drawing} (rooted : Rooted drawing) (line : List Char) : Rooted (drawing.step line) := by
  cases atLine : entryOf? line with
  | none =>
    obtain ⟨_, leads⟩ := rooted
    rw [Rooted, step_layout_of_no_entry drawing atLine, step_path, opened, atLine, Option.elim_none, List.append_nil]
    cases level? line with
    | none => exact ⟨_, leads⟩
    | some level => exact entriesAt?_take leads level
  | some entry =>
    obtain ⟨inner, node, leads, atName, kind⟩ := holds_step rooted atLine
    rw [Rooted, step_path, level?_of_entryOf? atLine, opened, atLine, Option.elim_some, Option.elim_some,
      entriesAt?_append, leads, Option.bind_some, Entry.opens]
    split
    · rename_i directory
      obtain ⟨held, rfl⟩ := kind.mp directory
      exact ⟨held, by simp only [entriesAt?, atName]⟩
    · exact ⟨inner, rfl⟩

theorem Rooted.foldl_step {drawing : Drawing} (rooted : Rooted drawing) (rows : List (List Char)) :
    Rooted (rows.foldl Drawing.step drawing) := by
  induction rows generalizing drawing with
  | nil => exact rooted
  | cons line rows ih => exact ih (rooted.step line)

theorem rooted_drawn (rows : List (List Char)) : Rooted (drawn rows) :=
  Rooted.foldl_step ⟨[], rfl⟩ rows

theorem take_take_append (n : Nat) (path more : List String) : (path.take n ++ more).take n = (path ++ more).take n := by
  have rest : n - (path.take n).length = n - path.length := by rw [List.length_take]; omega
  rw [List.take_append, List.take_append, rest, List.take_take, Nat.min_self]

/-- A line that is not above a level changes the path down to that level only by what it puts on it. -/
theorem step_path_take {drawing : Drawing} {line : List Char} {level : Nat}
    (deeper : ∀ l ∈ level? line, level ≤ l) :
    (drawing.step line).path.take level = (drawing.path.take level ++ opened line).take level := by
  rw [step_path]
  cases atLine : level? line with
  | none =>
    have nothing : opened line = [] := by
      cases isEntry : entryOf? line with
      | none => rw [opened, isEntry, Option.elim_none]
      | some entry => simp [level?_of_entryOf? isEntry] at atLine
    simp [nothing, List.take_take]
  | some l =>
    have below : level ≤ l := deeper l atLine
    rw [Option.elim_some]
    by_cases short : drawing.path.length ≤ level
    · rw [List.take_of_length_le (by omega : drawing.path.length ≤ l), List.take_of_length_le short]
    · have long : level ≤ (drawing.path.take l).length := by rw [List.length_take]; omega
      have full : level ≤ (drawing.path.take level).length := by rw [List.length_take]; omega
      rw [List.take_append_of_le_length long, List.take_append_of_le_length full, List.take_take, List.take_take]
      congr 1
      omega

theorem foldl_step_path_take {rows : List (List Char)} {level : Nat} (drawing : Drawing)
    (deeper : ∀ line ∈ rows, ∀ l ∈ level? line, level ≤ l) :
    (rows.foldl Drawing.step drawing).path.take level =
      (drawing.path.take level ++ rows.flatMap opened).take level := by
  induction rows generalizing drawing with
  | nil => simp [List.take_take]
  | cons line rows ih =>
    obtain ⟨here, below⟩ := List.forall_mem_cons.mp deeper
    rw [List.foldl_cons, ih (drawing.step line) below, step_path_take here, List.flatMap_cons, take_take_append,
      List.append_assoc]

/-- An entry whose place is as deep as its level leaves nothing undecided for those that follow on that level. If
its place is less deep, it is the directories from there on that fill the gap, and these only. -/
theorem place_eq_iff {before between : List (List Char)} {first : List Char} {this that : Entry}
    (atFirst : entryOf? first = some this) (sameLevel : that.level = this.level)
    (deeper : ∀ line ∈ between, ∀ level ∈ level? line, this.level ≤ level) :
    place (before ++ first :: between) that = place before this ↔
      (place before this).length = this.level ∨ ∀ line ∈ first :: between, opened line = [] := by
  have notAbove : ∀ line ∈ first :: between, ∀ level ∈ level? line, this.level ≤ level := by
    refine List.forall_mem_cons.mpr ⟨?_, deeper⟩
    intro level atLevel
    rw [level?_of_entryOf? atFirst, Option.mem_some_iff] at atLevel
    exact Nat.le_of_eq atLevel
  have grown : place (before ++ first :: between) that =
      (place before this ++ (first :: between).flatMap opened).take this.level := by
    rw [place, drawn, List.foldl_append, sameLevel]
    exact foldl_step_path_take _ notAbove
  have short : (place before this).length ≤ this.level := by rw [place, List.length_take]; omega
  rw [grown]
  constructor
  · intro same
    by_cases full : (place before this).length = this.level
    · exact Or.inl full
    · right
      have lengths := congrArg List.length same
      rw [List.length_take, List.length_append] at lengths
      have empty : ((first :: between).flatMap opened).length = 0 := by omega
      exact List.flatMap_eq_nil_iff.mp (List.length_eq_zero_iff.mp empty)
  · rintro (full | none)
    · rw [← full, List.take_left]
    · rw [List.flatMap_eq_nil_iff.mpr none, List.append_nil, List.take_of_length_le short]

/-- Two entries of one level, with no line above that level between them, go to one directory exactly when that
directory is as deep as the level says, or when no directory was drawn from the first of them on. -/
theorem siblings_share_place_iff (before : List (List Char)) {between : List (List Char)} {first second : List Char}
    {this that : Entry} (atFirst : entryOf? first = some this)
    (atSecond : entryOf? second = some that) (sameLevel : that.level = this.level)
    (deeper : ∀ line ∈ between, ∀ level ∈ level? line, this.level ≤ level) :
    Holds (drawn (before ++ [first])).layout (place before this) this ∧
      Holds (drawn (before ++ first :: between ++ [second])).layout (place (before ++ first :: between) that) that ∧
      (place (before ++ first :: between) that = place before this ↔
        (place before this).length = this.level ∨ ∀ line ∈ first :: between, opened line = []) := by
  refine ⟨?_, ?_, place_eq_iff atFirst sameLevel deeper⟩
  · rw [drawn_concat]
    exact holds_step (rooted_drawn before) atFirst
  · rw [drawn_concat]
    exact holds_step (rooted_drawn (before ++ first :: between)) atSecond

theorem siblings_share_place_below_root :
    entryOf? "├── a/".toList = some ⟨1, "a", true⟩ ∧ entryOf? "├── b/".toList = some ⟨1, "b", true⟩ ∧
      place (["app/".toList] ++ "├── a/".toList :: ["│   ├── x.py".toList]) ⟨1, "b", true⟩ =
        place ["app/".toList] ⟨1, "a", true⟩ := by
  have atFirst : entryOf? "├── a/".toList = some ⟨1, "a", true⟩ := by decide
  have atSecond : entryOf? "├── b/".toList = some ⟨1, "b", true⟩ := by decide
  have deeper : ∀ line ∈ ["│   ├── x.py".toList], ∀ level ∈ level? line, 1 ≤ level := by decide
  have shared := siblings_share_place_iff ["app/".toList] atFirst atSecond rfl deeper
  exact ⟨atFirst, atSecond, shared.2.2.mpr (Or.inl (by decide))⟩

/-- Without a line for the root the first of two directories side by side swallows the second. -/
theorem rootless_siblings_nest :
    entryOf? "├── a/".toList = some ⟨1, "a", true⟩ ∧ entryOf? "├── b/".toList = some ⟨1, "b", true⟩ ∧
      place [] ⟨1, "a", true⟩ = [] ∧ place ["├── a/".toList] ⟨1, "b", true⟩ = ["a"] ∧
      (parse "├── a/\n├── b/\n").paths = ["a/", "a/b/"] := by decide +kernel

end Plumbline.Diagram
