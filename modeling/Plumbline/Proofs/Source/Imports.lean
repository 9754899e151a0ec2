import Plumbline.Proofs.Text.Infix
import Plumbline.Proofs.Text.Lines
import Plumbline.Source.Definitions

namespace Plumbline.Source

open Text

/-- White space within a line. -/
structure Gap where
  chars : List Char
  blank : ∀ c ∈ chars, isBlank c = true

/-- A name of a module or in a path to one. All that matters of an identifier is that it holds no white space, no comma
and no dot. -/
def IsPart (name : List Char) : Prop := name ≠ [] ∧ ∀ c ∈ name, isBlank c = false ∧ c ≠ ',' ∧ c ≠ '.'

instance (name : List Char) : Decidable (IsPart name) :=
  haveI := List.decidableBAll (fun c => isBlank c = false ∧ c ≠ ',' ∧ c ≠ '.') name
  inferInstanceAs (Decidable (_ ∧ _))

/-- The dotted path to a module. -/
structure DottedPath where
  parts : List (List Char)
  nonempty : parts ≠ [] := by decide
  named : ∀ part ∈ parts, IsPart part := by decide

namespace DottedPath

variable (path : DottedPath)

def chars : List Char := ['.'].intercalate path.parts

theorem solid_chars : ∀ c ∈ path.chars, isBlank c = false ∧ c ≠ ',' :=
  forall_mem_intercalate ⟨by decide, by decide⟩ fun part member c inside =>
    ⟨((path.named part member).2 c inside).1, ((path.named part member).2 c inside).2.1⟩

theorem chars_ne_nil : path.chars ≠ [] := by
  obtain ⟨part, rest, parts⟩ := List.exists_cons_of_ne_nil path.nonempty
  obtain ⟨c, part, rfl⟩ := List.exists_cons_of_ne_nil (path.named part (parts ▸ List.mem_cons_self)).1
  rw [chars, parts]
  cases rest <;> simp

theorem undotted : ∀ part ∈ path.parts, ∀ c ∈ part, (c == '.') = false := fun part member c inside =>
  beq_eq_false_iff_ne.mpr ((path.named part member).2 c inside).2.2

theorem split_chars : split (· == '.') path.chars = path.parts :=
  split_intercalate (by decide) path.nonempty path.undotted

/-- Behind a comma that follows a path at once, the pieces go on with its last part and the comma. -/
theorem split_chars_comma {s piece : List Char} {pieces : List (List Char)}
    (halves : split (· == '.') s = piece :: pieces) :
    ∃ before last, path.parts = before ++ [last] ∧
      split (· == '.') (path.chars ++ ',' :: s) = before ++ (last ++ ',' :: piece) :: pieces := by
  obtain ⟨before, last, parts⟩ : ∃ before last, path.parts = before ++ [last] :=
    ⟨_, _, (List.dropLast_concat_getLast path.nonempty).symm⟩
  have behind : split (· == '.') ([','] ++ s) = ([','] ++ piece) :: pieces :=
    split_append_of_none halves (List.forall_mem_singleton.mpr rfl)
  have undotted := path.undotted
  rw [parts] at undotted
  refine ⟨before, last, parts, ?_⟩
  rw [chars, parts]
  exact split_intercalate_append behind (by decide) undotted

end DottedPath

/-- Another name for what is imported, with the white space before it. -/
structure Alias where
  before : Gap
  behind : Gap
  name : List Char
  apart : before.chars ≠ [] ∧ behind.chars ≠ [] := by decide

def Alias.chars (as : Alias) : List Char := as.before.chars ++ ("as".toList ++ (as.behind.chars ++ as.name))

/-- One of the modules that a statement imports. -/
structure Clause where
  path : DottedPath
  as : Option Alias

def Clause.chars (clause : Clause) : List Char := clause.path.chars ++ (clause.as.map Alias.chars).getD []

/-- A further module behind a comma. -/
structure Next where
  before : Gap
  behind : Gap
  clause : Clause

def Next.chars (next : Next) : List Char := next.before.chars ++ ',' :: (next.behind.chars ++ next.clause.chars)

/-- Whether only a comma stands between the path of a module and that of the next one. -/
def isGlued (clause : Clause) (next : Next) : Bool :=
  clause.as.isNone && next.before.chars.isEmpty && next.behind.chars.isEmpty

/-- The paths of modules that only commas separate, from the first one on. -/
def gluedChars : Clause → List Next → List Char
  | clause, [] => clause.path.chars
  | clause, next :: rest =>
    if isGlued clause next then clause.path.chars ++ ',' :: gluedChars next.clause rest else clause.path.chars

/-- The parts of the first path and of those that only commas separate from it, but for the parts right beside such a
comma. The first one is left out too when a comma stands before it. -/
def gluedParts (behindComma : Bool) : Clause → List Next → List (List Char)
  | clause, [] => if behindComma then clause.path.parts.tail else clause.path.parts
  | clause, next :: rest =>
    let parts := if behindComma then clause.path.parts.tail else clause.path.parts
    if isGlued clause next then parts.dropLast ++ gluedParts true next.clause rest else parts

section Glued

theorem gluedChars_ne_nil (clause : Clause) (others : List Next) : gluedChars clause others ≠ [] := by
  have nonempty := clause.path.chars_ne_nil
  cases others with
  | nil => exact nonempty
  | cons next rest =>
    rw [gluedChars]
    split
    · exact List.append_ne_nil_of_left_ne_nil nonempty _
    · exact nonempty

theorem takeWhile_gap_append {gap : Gap} (nonempty : gap.chars ≠ []) (rest : List Char) :
    ((gap.chars ++ rest).takeWhile fun c => !isBlank c) = [] := by
  obtain ⟨c, blanks, chars⟩ := List.exists_cons_of_ne_nil nonempty
  have blank := gap.blank c (chars ▸ List.mem_cons_self)
  rw [chars, List.cons_append, List.takeWhile_cons_of_neg (by simp [blank])]

theorem takeWhile_gap (gap : Gap) : (gap.chars.takeWhile fun c => !isBlank c) = [] := by
  by_cases empty : gap.chars = []
  · rw [empty, List.takeWhile_nil]
  · rw [← List.append_nil gap.chars, takeWhile_gap_append empty]

theorem takeWhile_path (path : DottedPath) (rest : List Char) :
    ((path.chars ++ rest).takeWhile fun c => !isBlank c) = path.chars ++ rest.takeWhile fun c => !isBlank c :=
  List.takeWhile_append_of_pos fun c member => by rw [(path.solid_chars c member).1]; rfl

theorem takeWhile_clause_of_some {clause : Clause} {as : Alias} (renamed : clause.as = some as) (rest : List Char) :
    ((clause.chars ++ rest).takeWhile fun c => !isBlank c) = clause.path.chars := by
  rw [Clause.chars, renamed, Option.map_some, Option.getD_some, Alias.chars, List.append_assoc, List.append_assoc,
    takeWhile_path, takeWhile_gap_append as.apart.1, List.append_nil]

theorem takeWhile_clause_of_none {clause : Clause} (plain : clause.as = none) (rest : List Char) :
    ((clause.chars ++ rest).takeWhile fun c => !isBlank c) = clause.path.chars ++ rest.takeWhile fun c => !isBlank c := by
  rw [Clause.chars, plain, Option.map_none, Option.getD_none, List.append_nil, takeWhile_path]

theorem dropRightWhile_path (path : DottedPath) : dropRightWhile (· == ',') path.chars = path.chars :=
  dropRightWhile_eq_self fun c last => beq_eq_false_iff_ne.mpr (path.solid_chars c (List.mem_of_getLast? last)).2

/-- The first word of a list of modules, without a comma at its end, is that of the paths that only commas separate. -/
theorem dropRightWhile_takeWhile_eq (clause : Clause) (others : List Next) (tail : Gap) :
    dropRightWhile (· == ',') ((clause.chars ++ (others.flatMap Next.chars ++ tail.chars)).takeWhile fun c => !isBlank c) =
      gluedChars clause others := by
  induction others generalizing clause with
  | nil =>
    have word : ((clause.chars ++ ([].flatMap Next.chars ++ tail.chars)).takeWhile fun c => !isBlank c) =
        clause.path.chars := by
      cases renamed : clause.as with
      | some as => exact takeWhile_clause_of_some renamed _
      | none => rw [takeWhile_clause_of_none renamed, List.flatMap_nil, List.nil_append, takeWhile_gap, List.append_nil]
    rw [word, dropRightWhile_path, gluedChars]
  | cons next rest ih =>
    have more : (next :: rest).flatMap Next.chars ++ tail.chars = next.before.chars ++ ([','] ++ (next.behind.chars ++
        (next.clause.chars ++ (rest.flatMap Next.chars ++ tail.chars)))) := by
      simp [Next.chars]
    rw [more, gluedChars, isGlued]
    cases renamed : clause.as with
    | some as =>
      rw [takeWhile_clause_of_some renamed, dropRightWhile_path]
      rfl
    | none =>
      rw [takeWhile_clause_of_none renamed]
      by_cases before : next.before.chars = []
      · have comma (s : List Char) : (([','] ++ s).takeWhile fun c => !isBlank c) = [','] ++ s.takeWhile fun c => !isBlank c :=
          List.takeWhile_append_of_pos (List.forall_mem_singleton.mpr (by decide))
        rw [before, List.nil_append, comma]
        by_cases behind : next.behind.chars = []
        · have stays := gluedChars_ne_nil next.clause rest
          rw [← ih] at stays
          rw [behind, List.nil_append, ← List.append_assoc, dropRightWhile_append_of_ne_nil stays, ih, List.append_assoc]
          rfl
        · rw [takeWhile_gap_append behind, List.append_nil, dropRightWhile_concat (by decide), dropRightWhile_path]
          simp [behind]
      · rw [takeWhile_gap_append before, List.append_nil, dropRightWhile_path]
        simp [before]

/-- Of the pieces between the dots, the ones without a comma are the parts that stand beside none. -/
theorem mem_split_gluedChars_iff {name : List Char} (plain : ',' ∉ name) (behindComma : Bool) (clause : Clause)
    (others : List Next) :
    name ∈ (if behindComma then (split (· == '.') (gluedChars clause others)).tail
      else split (· == '.') (gluedChars clause others)) ↔ name ∈ gluedParts behindComma clause others := by
  induction others generalizing clause behindComma with
  | nil => rw [gluedChars, gluedParts, clause.path.split_chars]
  | cons next rest ih =>
    rw [gluedChars, gluedParts]
    by_cases glued : isGlued clause next = true
    · have some : split (· == '.') (gluedChars next.clause rest) ≠ [] := split_ne_nil _
      obtain ⟨piece, pieces, halves⟩ := List.exists_cons_of_ne_nil some
      obtain ⟨before, last, parts, whole⟩ := clause.path.split_chars_comma halves
      have later := ih true next.clause
      rw [if_pos rfl, halves, List.tail_cons] at later
      have merged : name ≠ last ++ ',' :: piece := by
        rintro rfl
        exact plain (by simp)
      rw [if_pos glued, if_pos glued, whole, parts, List.mem_append, ← later]
      cases behindComma with
      | false => simp [merged]
      | true => cases before <;> simp [merged]
    · rw [if_neg glued, if_neg glued, clause.path.split_chars]

end Glued

/-- Whether a line begins with the keyword of an import and a space. -/
def BeginsImport (row : List Char) : Prop := "from ".toList <+: trimStart row ∨ "import ".toList <+: trimStart row

/-- What a statement imports: modules by their paths, or names from one module. In brackets, names may take further
lines. -/
inductive Imported where
  | modules (first : Clause) (others : List Next) (tail : Gap)
  | names (path : DottedPath) (behind : Gap) (listed : List Char) (more : List (List Char))
      (apart : behind.chars ≠ []) (goesOn : ∀ row ∈ more, ¬ BeginsImport row)

namespace Imported

def keyword : Imported → List Char
  | modules .. => "import".toList
  | names .. => "from".toList

/-- What stands behind the keyword and the white space after it. -/
def chars : Imported → List Char
  | modules first others tail => first.chars ++ (others.flatMap Next.chars ++ tail.chars)
  | names path behind listed _ _ _ => path.chars ++ (behind.chars ++ ("import".toList ++ listed))

/-- The further lines. -/
def more : Imported → List (List Char)
  | modules .. => []
  | names _ _ _ more _ _ => more

/-- The paths of the modules that are imported, or from which something is. -/
def paths : Imported → List DottedPath
  | modules first others _ => first.path :: others.map (·.clause.path)
  | names path .. => [path]

/-- The parts of paths that a search for a module goes by. -/
def heard : Imported → List (List Char)
  | modules first others _ => gluedParts false first others
  | names path .. => path.parts

end Imported

/-- An import, on a line of its own. -/
structure Statement where
  indent : Gap
  gap : Gap
  imported : Imported
  apart : gap.chars ≠ [] := by decide

namespace Statement

variable (statement : Statement)

def row : List Char :=
  statement.indent.chars ++ (statement.imported.keyword ++ (statement.gap.chars ++ statement.imported.chars))

/-- The lines of a statement. -/
def rows : List (List Char) := statement.row :: statement.imported.more

/-- Whether a space, and no other white space, follows the keyword. -/
def isSpaced : Bool := statement.gap.chars.head? == some ' '

end Statement

/-- Whether some statement imports a module, by its name or as a part of a dotted path. -/
def Imports (statements : List Statement) (module : String) : Prop :=
  ∃ statement ∈ statements, ∃ path ∈ statement.imported.paths, module.toList ∈ path.parts

section Reading

theorem exists_head?_chars (imported : Imported) : ∃ c, imported.chars.head? = some c ∧ isBlank c = false := by
  have begins (path : DottedPath) (rest : List Char) : ∃ c, (path.chars ++ rest).head? = some c ∧ isBlank c = false := by
    obtain ⟨c, letters, chars⟩ := List.exists_cons_of_ne_nil path.chars_ne_nil
    exact ⟨c, by rw [chars]; rfl, (path.solid_chars c (chars ▸ List.mem_cons_self)).1⟩
  cases imported with
  | modules first others tail =>
    rw [Imported.chars, Clause.chars, List.append_assoc]
    exact begins first.path _
  | names path behind listed more apart goesOn => exact begins path _

theorem trimStart_keyword (imported : Imported) (s : List Char) :
    trimStart (imported.keyword ++ s) = imported.keyword ++ s := by
  cases imported <;> exact trimStart_cons (by decide) _

/-- A keyword is known by the space behind it. -/
theorem after?_keyword (imported : Imported) (c : Char) (s : List Char) :
    (after? "from ".toList (imported.keyword ++ c :: s)).or (after? "import ".toList (imported.keyword ++ c :: s)) =
      if ' ' = c then some s else none := by
  cases imported with
  | modules first others tail =>
    have keyword : (Imported.modules first others tail).keyword = "import".toList := rfl
    have other : after? "from ".toList ("import".toList ++ c :: s) = none := if_neg (by decide)
    rw [keyword, other, Option.none_or]
    exact after?_concat "import".toList ' ' c s
  | names path behind listed more apart goesOn =>
    have keyword : (Imported.names path behind listed more apart goesOn).keyword = "from".toList := rfl
    have other : after? "import ".toList ("from".toList ++ c :: s) = none := if_neg (by decide)
    rw [keyword, other, Option.or_none]
    exact after?_concat "from".toList ' ' c s

theorem importedPath?_row (statement : Statement) :
    importedPath? statement.row =
      if statement.isSpaced then some (statement.imported.chars.takeWhile fun c => !isBlank c) else none := by
  obtain ⟨c, blanks, gap⟩ := List.exists_cons_of_ne_nil statement.apart
  obtain ⟨first, begins, solid⟩ := exists_head?_chars statement.imported
  have blank := statement.gap.blank
  rw [gap] at blank
  have word := head?_words (List.forall_mem_cons.mp blank).2 begins solid
  rw [importedPath?, Statement.row, Statement.isSpaced, trimStart_append statement.indent.blank, trimStart_keyword, gap,
    List.cons_append, after?_keyword, List.head?_cons]
  by_cases space : ' ' = c
  · subst space
    exact word
  · rw [if_neg space, if_neg (by simpa using Ne.symm space)]

theorem importedPath?_of_not_beginsImport {row : List Char} (other : ¬ BeginsImport row) : importedPath? row = none := by
  obtain ⟨notFrom, notImport⟩ := not_or.mp other
  rw [importedPath?, after?_eq_none_iff.mpr notFrom, after?_eq_none_iff.mpr notImport]
  rfl

/-- Whether a line counts as an import of a module. -/
def hears (module : String) (line : List Char) : Bool :=
  match importedPath? line with
  | some path => (split (· == '.') (dropRightWhile (· == ',') path)).contains module.toList
  | none => false

theorem importsModule_eq (text module : String) : importsModule text module = (lines text.toList).any (hears module) := rfl

variable {module : String} (plain : ',' ∉ module.toList)

include plain

theorem mem_split_iff_mem_heard (imported : Imported) :
    module.toList ∈ split (· == '.') (dropRightWhile (· == ',') (imported.chars.takeWhile fun c => !isBlank c)) ↔
      module.toList ∈ imported.heard := by
  cases imported with
  | modules first others tail =>
    rw [Imported.chars, dropRightWhile_takeWhile_eq]
    exact mem_split_gluedChars_iff plain false first others
  | names path behind listed more apart goesOn =>
    rw [Imported.chars, takeWhile_path, takeWhile_gap_append apart, List.append_nil, dropRightWhile_path, path.split_chars,
      Imported.heard]

theorem any_hears_rows_iff (statement : Statement) :
    statement.rows.any (hears module) = true ↔
      statement.isSpaced = true ∧ module.toList ∈ statement.imported.heard := by
  have silent : statement.imported.more.any (hears module) = false := by
    refine List.any_eq_false.mpr fun row member => ?_
    cases imported : statement.imported with
    | modules first others tail =>
      rw [imported] at member
      cases member
    | names path behind listed more apart goesOn =>
      rw [imported] at member
      rw [hears, importedPath?_of_not_beginsImport (goesOn row member)]
      exact Bool.false_ne_true
  rw [Statement.rows, List.any_cons, silent, Bool.or_false, hears, importedPath?_row, ← mem_split_iff_mem_heard plain]
  cases statement.isSpaced <;> simp

end Reading

theorem mem_parts_of_mem {path : DottedPath} {name : List Char} {behindComma : Bool}
    (member : name ∈ if behindComma then path.parts.tail else path.parts) : name ∈ path.parts := by
  split at member
  · exact List.mem_of_mem_tail member
  · exact member

theorem exists_path_of_mem_gluedParts {name : List Char} {behindComma : Bool} {clause : Clause} {others : List Next}
    (member : name ∈ gluedParts behindComma clause others) :
    ∃ path ∈ clause.path :: others.map (·.clause.path), name ∈ path.parts := by
  induction others generalizing clause behindComma with
  | nil => exact ⟨clause.path, List.mem_cons_self, mem_parts_of_mem member⟩
  | cons next rest ih =>
    rw [gluedParts] at member
    split at member
    · rcases List.mem_append.mp member with first | later
      · exact ⟨clause.path, List.mem_cons_self, mem_parts_of_mem (List.dropLast_subset _ first)⟩
      · obtain ⟨path, among, inside⟩ := ih later
        exact ⟨path, List.mem_cons_of_mem _ among, inside⟩
    · exact ⟨clause.path, List.mem_cons_self, mem_parts_of_mem member⟩

/-- Nothing counts as an import that is no part of an imported path. -/
theorem exists_path_of_mem_heard {imported : Imported} {name : List Char} (member : name ∈ imported.heard) :
    ∃ path ∈ imported.paths, name ∈ path.parts := by
  cases imported with
  | modules first others tail => exact exists_path_of_mem_gluedParts member
  | names path => exact ⟨path, List.mem_singleton_self path, member⟩

/-- Of a single path every part counts. -/
theorem heard_of_paths_eq {imported : Imported} {path : DottedPath} (sole : imported.paths = [path]) :
    imported.heard = path.parts := by
  cases imported with
  | modules first others tail =>
    obtain ⟨rfl, none⟩ := List.cons.inj sole
    rw [List.map_eq_nil_iff.mp none]
    rfl
  | names path' => exact congrArg DottedPath.parts (List.singleton_inj.mp sole)

/-- In a text made of imports, those of a module that count are the ones with a space behind their keyword, and of several
modules that one of them imports only the first counts, with those that nothing but commas separates from it and without
the parts right beside these commas. Nothing else counts, and all imports do where each names one path behind a space. -/
theorem importsModule_iff {text : String} {statements : List Statement}
    (made : lines text.toList = statements.flatMap Statement.rows) {module : String} (plain : ',' ∉ module.toList) :
    (importsModule text module = true ↔
      ∃ statement ∈ statements, statement.isSpaced = true ∧ module.toList ∈ statement.imported.heard) ∧
    (importsModule text module = true → Imports statements module) ∧
    ((∀ statement ∈ statements, statement.isSpaced = true ∧ ∃ path, statement.imported.paths = [path]) →
      (importsModule text module = true ↔ Imports statements module)) := by
  have counts : importsModule text module = true ↔
      ∃ statement ∈ statements, statement.isSpaced = true ∧ module.toList ∈ statement.imported.heard := by
    rw [importsModule_eq, made, List.any_flatMap, List.any_eq_true]
    simp only [any_hears_rows_iff plain]
  have sound : importsModule text module = true → Imports statements module := by
    intro found
    obtain ⟨statement, member, _, heard⟩ := counts.mp found
    exact ⟨statement, member, exists_path_of_mem_heard heard⟩
  refine ⟨counts, sound, fun simple => ⟨sound, ?_⟩⟩
  rintro ⟨statement, member, path, among, inside⟩
  obtain ⟨spaced, sole, paths⟩ := simple statement member
  rw [paths, List.mem_singleton] at among
  exact counts.mpr ⟨statement, member, spaced, heard_of_paths_eq paths ▸ among ▸ inside⟩

section Samples

def space : Gap := ⟨[' '], List.all_eq_true.mp (by decide)⟩

theorem isBlank_of_mem_nil : ∀ c ∈ [], isBlank c = true := List.forall_mem_nil _

def noGap : Gap := ⟨[], isBlank_of_mem_nil⟩

/-- A list of modules with another name for the first, and names in brackets over several lines. -/
def sampleImports : List Statement :=
  [{ indent := noGap
     gap := space
     imported := .modules ⟨{ parts := ["os".toList, "path".toList] }, some ⟨space, space, "p".toList, by decide⟩⟩
      [⟨noGap, space, { parts := ["payments".toList] }, none⟩] noGap },
    { indent := ⟨[' ', '\t'], List.all_eq_true.mp (by decide)⟩
      gap := space
      imported := .names { parts := ["ledger".toList, "models".toList] } space " (".toList
        ["    Loan,".toList, ")".toList] (by decide) (by simp only [BeginsImport]; decide) }]

def sampleText : String := "import os.path as p, payments\n \tfrom ledger.models import (\n    Loan,\n)\n"

theorem importsModule_models_of_sampleImports :
    lines sampleText.toList = sampleImports.flatMap Statement.rows ∧ ',' ∉ "models".toList ∧
      importsModule sampleText "models" = true := by
  have made : lines sampleText.toList = sampleImports.flatMap Statement.rows := by decide +kernel
  have plain : ',' ∉ "models".toList := by decide
  refine ⟨made, plain, (importsModule_iff made plain).1.mpr ⟨_, List.mem_cons_of_mem _ List.mem_cons_self, ?_, ?_⟩⟩
  · decide
  · decide

def twoModules : Statement where
  indent := noGap
  gap := space
  imported := .modules ⟨{ parts := ["os".toList] }, none⟩ [⟨noGap, space, { parts := ["payments".toList] }, none⟩] noGap

/-- A module behind a comma does not count as imported. -/
theorem second_module_not_heard :
    ¬ ∀ (text module : String) (statements : List Statement), lines text.toList = statements.flatMap Statement.rows →
      IsPart module.toList → (importsModule text module = true ↔ Imports statements module) := by
  intro always
  have same := always "import os, payments" "payments" [twoModules] (by decide +kernel) (by decide)
  have imported : Imports [twoModules] "payments" :=
    ⟨twoModules, List.mem_singleton_self _, _, List.mem_cons_of_mem _ (List.mem_singleton_self _), by decide⟩
  have unheard : importsModule "import os, payments" "payments" = false := by decide +kernel
  rw [same.mpr imported] at unheard
  cases unheard

end Samples

end Plumbline.Source
