import Plumbline.Proofs.Blueprint.Pins
import Plumbline.Proofs.Check.DeclarationLines
import Plumbline.Proofs.Site
import Plumbline.Proofs.Text.Infix

namespace Plumbline.Check

open Dependencies (Entry Row blockText entries)
open Text

/-- Whether dependencies are looked for in a file with these names. -/
def IsManifest (names : List String) : Prop :=
  names.getLast? = some "pyproject.toml" ∨
    ∃ name middle, names.getLast? = some name ∧ name.toList = "requirements".toList ++ (middle ++ ".txt".toList)

/-- The patterns for the manifests of dependencies. -/
def manifestPatterns : List PathPattern :=
  [⟨["pyproject.toml".toList.map .literal]⟩,
    ⟨["requirements".toList.map .literal ++ .many :: ".txt".toList.map .literal]⟩]

theorem parseAll_manifests :
    PathPattern.parseAll ["pyproject.toml", "requirements*.txt"] = .ok manifestPatterns := by
  have project : PathPattern.components "pyproject.toml" = ["pyproject.toml"] := by decide +kernel
  have listing : PathPattern.components "requirements*.txt" = ["requirements*.txt"] := by decide +kernel
  have around : Glob.parse "requirements*.txt".toList =
      .ok ("requirements".toList.map .literal ++ .many :: ".txt".toList.map .literal) := rfl
  exact mapM_eq_ok_of_forall₂
    (.cons (PathPattern.parse_eq_ok project (.cons ⟨Glob.parse_of_plain (by decide +kernel), by decide +kernel⟩ .nil))
      (.cons (PathPattern.parse_eq_ok listing (.cons ⟨around, by decide +kernel⟩ .nil)) .nil))

theorem any_manifestPatterns_iff {names : List String} :
    manifestPatterns.any (·.isMatch names) = true ↔ IsManifest names := by
  have project : PathPattern.isMatch ⟨["pyproject.toml".toList.map .literal]⟩ names = true ↔
      names.getLast? = some "pyproject.toml" := by
    simp only [PathPattern.isMatch_singleton_iff, Glob.isMatch_literals, String.toList_inj, exists_eq_right]
  have listing : PathPattern.isMatch ⟨["requirements".toList.map .literal ++ .many :: ".txt".toList.map .literal]⟩
      names = true ↔ ∃ name middle, names.getLast? = some name ∧
        name.toList = "requirements".toList ++ (middle ++ ".txt".toList) := by
    simp only [PathPattern.isMatch_singleton_iff, Glob.isMatch_around_star, exists_and_left]
  simp only [manifestPatterns, List.any_cons, List.any_nil, Bool.or_false, Bool.or_eq_true, project, listing, IsManifest]

/-- A tree with a project file that holds a text, and no other file where dependencies are looked for. -/
structure SoleManifest (site : Site) (names : List String) (text : String) : Prop where
  named : names.getLast? = some "pyproject.toml"
  walked : ∃ before after, site.walkFiles = .ok (before ++ ⟨names, some text⟩ :: after) ∧
    ∀ file ∈ before ++ after, ¬IsManifest file.names

theorem SoleManifest.filesMatching {site : Site} {names : List String} {text : String}
    (sole : SoleManifest site names text) :
    site.filesMatching ["pyproject.toml", "requirements*.txt"] = .ok [⟨names, some text⟩] := by
  obtain ⟨before, after, walked, others⟩ := sole.walked
  exact Site.filesMatching_of_sole parseAll_manifests walked (any_manifestPatterns_iff.mpr (.inl sole.named))
    fun file member found => others file member (any_manifestPatterns_iff.mp found)

theorem soleManifest_ofFile (text : String) : SoleManifest (.ofFile "pyproject.toml" text) ["pyproject.toml"] text :=
  ⟨rfl, [], [], Site.walkFiles_ofFile "pyproject.toml" text, fun _ none => absurd none List.not_mem_nil⟩

theorem normalizeName_of_mem {name : String} (known : name ∈ "mysqlclient" :: Dependencies.knownBackend) :
    normalizeName name.toList = name.toList := by
  have all : ∀ name ∈ "mysqlclient" :: Dependencies.knownBackend, normalizeName name.toList = name.toList := by
    decide +kernel
  exact all name known

section Entry

variable (entry : Entry)

theorem isNameChar_of_mem_name : ∀ c ∈ entry.name.toList, isNameChar c = true := by
  have all : ∀ name ∈ Dependencies.knownBackend, name.toList.all isNameChar = true := by decide +kernel
  exact List.all_eq_true.mp (all entry.name entry.known)

/-- An entry is a line that declares its package without extras. -/
def entryLine : DeclarationLine where
  gap := []
  quotes := []
  name := entry.name.toList
  extras := none
  rest := entry.rest
  blank := List.forall_mem_nil _
  quoted := List.forall_mem_nil _
  nonempty := entry.name_ne_nil
  named := isNameChar_of_mem_name entry
  unclosed := nofun
  apart := fun c first => by
    rcases entry.head_rest [] c (by rwa [List.append_nil]) with rfl | rfl | rfl <;> decide

theorem trimEnd_rest : trimEnd entry.rest = entry.rest := by
  refine dropRightWhile_eq_self fun c last => ?_
  have ends : entry.rest.getLast? = some '\x22' := by
    have closed : entry.rest = (entry.left.chars ++ '=' :: (entry.right.chars ++ '\x22' :: entry.signs)) ++
        entry.version ++ ['\x22'] := by simp [Entry.rest, Entry.value, List.append_assoc]
    rw [closed, List.getLast?_concat]
  rw [ends] at last
  exact Option.some.inj last ▸ by decide

/-- An entry declares its package, and what it says about it is the rest of its line. -/
theorem declaration?_entry : declaration? (Row.entry entry).chars = some (entry.name.toList, entry.rest) := by
  have line : (Row.entry entry).chars = (entryLine entry).chars := rfl
  rw [line, (entryLine entry).declaration?_chars, entryLine, normalizeName_of_mem (List.mem_cons_of_mem _ entry.known),
    trimEnd_rest]

end Entry

/-- Blank lines and headings declare nothing. -/
theorem declaration?_row (row : Row) :
    declaration? row.chars = row.entry?.map fun entry => (entry.name.toList, entry.rest) := by
  cases row with
  | blank gap =>
    rw [Row.chars, declaration?, trim_of_blank gap.isBlank]
    rfl
  | heading table =>
    have trimmed : trim (Row.heading table).chars = (Row.heading table).chars := by
      refine trim_of_solid_ends (fun c first => ?_) fun c last => ?_
      · exact Option.some.inj first ▸ by decide
      · rw [Row.chars, ← List.cons_append, List.getLast?_concat] at last
        exact Option.some.inj last ▸ by decide
    rw [declaration?, trimmed]
    rfl
  | entry given => exact declaration?_entry given

/-- The declarations of a block are its entries. -/
theorem filterMap_declaration?_lines (rows : List Row) : (lines (blockText rows)).filterMap declaration? =
    (entries rows).map fun entry => (entry.name.toList, entry.rest) := by
  induction rows with
  | nil => rfl
  | cons row rows ih =>
    have here : [row.chars].filterMap declaration? =
        (row.entry?.map fun entry => (entry.name.toList, entry.rest)).toList := by
      rw [← declaration?_row]
      cases declares : declaration? row.chars <;> simp [declares]
    have lined : (lines (blockText (row :: rows))).filterMap declaration? =
        [row.chars].filterMap declaration? ++ (lines (blockText rows)).filterMap declaration? := by
      rw [Dependencies.blockText_cons]
      cases rows with
      | nil =>
        have below : lines (blockText []) = [] := rfl
        rw [below, Dependencies.behind, List.append_nil, List.filterMap_nil, List.append_nil]
        by_cases empty : row.chars = []
        · rw [empty]
          rfl
        · rw [lines_of_not_feed_mem row.not_feed_mem empty]
      | cons next rows =>
        have feed : Dependencies.behind (next :: rows) = '\n' :: blockText (next :: rows) := rfl
        rw [feed, lines_append_feed row.not_feed_mem, row.withoutReturn_chars, ← List.singleton_append,
          List.filterMap_append]
    rw [lined, here, ih, entries, entries]
    cases entry : row.entry? with
    | none => rw [List.filterMap_cons_none entry, Option.map_none, Option.toList_none, List.nil_append]
    | some given =>
      rw [List.filterMap_cons_some entry, Option.map_some, Option.toList_some, List.singleton_append, List.map_cons]

section Package

variable {rows : List Row} {name path first : String} {severity : Severity}

/-- What is found of a package in a block is its first entry. -/
theorem findDeclaration?_blockText (normal : normalizeName name.toList = name.toList) :
    findDeclaration? [(path, String.ofList (blockText rows))] (normalizeName name.toList) =
      ((entries rows).find? (·.name == name)).map fun entry => (path, entry.rest) := by
  have same (entry : Entry) : (entry.name.toList == name.toList) = (entry.name == name) := by
    rw [Bool.eq_iff_iff, beq_iff_eq, beq_iff_eq, String.toList_inj]
  rw [findDeclaration?, normal, List.findSome?_singleton]
  dsimp only
  rw [String.toList_ofList, filterMap_declaration?_lines, List.find?_map, Option.map_map]
  simp only [Function.comp_def, same]

/-- No fault is found with a package just when it is declared, and its first declaration holds the version it must have. -/
theorem packageIssue?_eq_none_iff (normal : normalizeName name.toList = name.toList) (version : Option String) :
    packageIssue? [(path, String.ofList (blockText rows))] first ⟨name, version, severity⟩ = none ↔
      ∃ entry, (entries rows).find? (·.name == name) = some entry ∧ ∀ v ∈ version, v.toList <:+: entry.rest := by
  rw [packageIssue?]
  dsimp only
  rw [findDeclaration?_blockText normal]
  cases (entries rows).find? (·.name == name) with
  | none => simp
  | some entry => cases version <;> simp [contains_iff]

/-- A check for one package goes by the declarations of the sole manifest. -/
theorem run_declaredDependencies {site : Site} {names : List String} {text : String} (sole : SoleManifest site names text)
    (package : Package) : DeclaredDependencies.run ⟨["pyproject.toml", "requirements*.txt"], [package]⟩ site =
      .ok (packageIssue? [(Path.ofSteps names, text)] (Path.ofSteps names) package).toList := by
  rw [DeclaredDependencies.run, sole.filesMatching]
  refine congrArg Except.ok ?_
  cases found : packageIssue? [(Path.ofSteps names, text)] (Path.ofSteps names) package with
  | none => exact List.filterMap_cons_none found
  | some issue => exact List.filterMap_cons_some found

end Package

/-- A version is found behind the name of an entry just when it is found in the version of the entry. -/
theorem infix_rest_iff (entry : Entry) {version : List Char} (nonempty : version ≠ [])
    (numbered : ∀ c ∈ version, c.isDigit = true ∨ c = '.') : version <:+: entry.rest ↔ version <:+: entry.version := by
  have front : entry.rest = (entry.left.chars ++ '=' :: (entry.right.chars ++ '\x22' :: entry.signs)) ++
      (entry.version ++ ['\x22']) := by
    simp [Entry.rest, Entry.value, List.append_assoc]
  have other {c : Char} (member : c ∈ [' ', '\t', '=', '\x22', '^', '~', '>']) : c ∉ version := by
    have apart : [' ', '\t', '=', '\x22', '^', '~', '>'].all (fun c => !(c.isDigit || c == '.')) = true := by decide
    have none := List.all_eq_true.mp apart c member
    intro inside
    rcases numbered c inside with digit | rfl
    · simp [digit] at none
    · simp at none
  have inGap (gap : Dependencies.Gap) : ∀ c ∈ gap.chars, c ∉ version := by
    intro c member
    rcases gap.blank c member with rfl | rfl <;> exact other (by decide)
  have apart : ∀ c ∈ entry.left.chars ++ '=' :: (entry.right.chars ++ '\x22' :: entry.signs), c ∉ version := by
    simp only [List.forall_mem_append, List.forall_mem_cons]
    refine ⟨inGap entry.left, other (by decide), inGap entry.right, other (by decide), fun c member => ?_⟩
    rcases entry.signed c member with rfl | rfl | rfl | rfl <;> exact other (by decide)
  rw [front, infix_append_iff_of_apart nonempty apart, infix_concat_iff_of_not_mem nonempty (other (by decide))]

namespace DeclaredDependencies

/-- Whether an issue says that a package is declared nowhere. -/
def SaysUndeclared (package : Package) (issue : Issue) : Prop :=
  issue.issueType = "missing_dependency_manifest" ∨
    issue.issueType = "missing_dependency" ∧ issue.description = s!"Dependency not declared: {package.name}"

variable {manifests : List (String × String)} {package : Package}

theorem findDeclaration?_ne_none {path text : String} {row wanted rest : List Char}
    (manifest : (path, text) ∈ manifests) (member : row ∈ lines text.toList)
    (declares : declaration? row = some (wanted, rest)) : findDeclaration? manifests wanted ≠ none := by
  intro missed
  have unnamed := List.findSome?_eq_none_iff.mp missed (path, text) manifest
  rw [Option.map_eq_none_iff, List.find?_eq_none] at unnamed
  exact unnamed _ (List.mem_filterMap.mpr ⟨row, member, declares⟩) (beq_self_eq_true wanted)

/-- A package is said to be undeclared only where no manifest declares it. -/
theorem not_saysUndeclared_of_packageIssue? {first : String} {issue : Issue} {other : Package}
    (found : findDeclaration? manifests (normalizeName package.name.toList) ≠ none)
    (told : packageIssue? manifests first other = some issue) : ¬ SaysUndeclared package issue := by
  rw [packageIssue?] at told
  split at told
  · rename_i missed
    obtain rfl := Option.some.inj told
    rintro (type | ⟨_, description⟩)
    · exact absurd (show "missing_dependency" = _ from type) (by decide)
    · have same : "Dependency not declared: " ++ other.name = "Dependency not declared: " ++ package.name := description
      have named : other.name = package.name := by simpa using same
      exact found (named ▸ missed)
  · split at told
    · cases told
    · obtain rfl := Option.some.inj told
      rintro (type | ⟨type, _⟩)
      · exact absurd (show "dependency_version_mismatch" = _ from type) (by decide)
      · exact absurd (show "dependency_version_mismatch" = _ from type) (by decide)
  · cases told

/-- Where a manifest has been read that declares a package, the package is not said to be undeclared. -/
theorem run_of_declared {check : DeclaredDependencies} {site : Site} {files : List FoundFile} {file : FoundFile}
    {text : String} {row rest : List Char} (matched : site.filesMatching check.manifests = .ok files)
    (member : file ∈ files) (read : file.text = some text) (lined : row ∈ lines text.toList)
    (declares : declaration? row = some (normalizeName package.name.toList, rest)) :
    ∃ issues, check.run site = .ok issues ∧ ∀ issue ∈ issues, ¬ SaysUndeclared package issue := by
  have manifest : (file.path, text) ∈ files.filterMap fun file => file.text.map (file.path, ·) :=
    List.mem_filterMap.mpr ⟨file, member, by rw [read]; rfl⟩
  have found := findDeclaration?_ne_none manifest lined declares
  rw [run, matched]
  dsimp only [bind, Except.bind]
  generalize files.filterMap (fun file => file.text.map (file.path, ·)) = manifests at manifest found
  obtain ⟨⟨first, _⟩, others, rfl⟩ := List.exists_cons_of_ne_nil (List.ne_nil_of_mem manifest)
  refine ⟨_, rfl, fun issue reported => ?_⟩
  obtain ⟨other, _, told⟩ := List.mem_filterMap.mp reported
  exact not_saysUndeclared_of_packageIssue? found told

/-- A line declares the name it has, in normal form, with what stands behind the name and its extras. A manifest with the
line declares every package of that name, whatever its case and its dashes, underscores and dots. -/
theorem declared_of_declarationLine (line : DeclarationLine) :
    declaration? line.chars = some (normalizeName line.name, trimEnd line.rest) ∧
      ∀ (check : DeclaredDependencies) (site : Site) (files : List FoundFile) (file : FoundFile) (text : String)
        (package : Package), site.filesMatching check.manifests = .ok files → file ∈ files → file.text = some text →
        line.chars ∈ lines text.toList → List.Forall₂ SameLetter line.name package.name.toList →
        ∃ issues, check.run site = .ok issues ∧ ∀ issue ∈ issues, ¬ SaysUndeclared package issue := by
  refine ⟨line.declaration?_chars, fun check site files file text package matched member read lined same => ?_⟩
  have declares := line.declaration?_chars
  rw [normalizeName_eq_of_sameLetters line.named same] at declares
  exact run_of_declared matched member read lined declares

/-- A line of a project file with a quotation mark, an extra and a version. -/
def quotedLine : DeclarationLine where
  gap := "  ".toList
  quotes := ['\x22']
  name := "Psycopg2_Binary".toList
  extras := some ['c']
  rest := ">=2.9\",".toList
  blank := List.all_eq_true.mp (by decide)
  quoted := List.forall_mem_singleton.mpr rfl
  nonempty := by decide
  named := List.all_eq_true.mp (by decide)
  unclosed := by decide
  apart := fun c first => Option.some.inj first ▸ by decide

def quotedText : String := "[project]\ndependencies = [\n  \"Psycopg2_Binary[c]>=2.9\",\n]\n"

theorem declared_psycopg_of_quotedLine :
    List.Forall₂ SameLetter quotedLine.name "psycopg2.binary".toList ∧
      ∃ issues, run ⟨["pyproject.toml", "requirements*.txt"], [⟨"psycopg2.binary", none, .high⟩]⟩
          (.ofFile "pyproject.toml" quotedText) = .ok issues ∧
        ∀ issue ∈ issues, ¬ SaysUndeclared ⟨"psycopg2.binary", none, .high⟩ issue := by
  have same : List.Forall₂ SameLetter quotedLine.name "psycopg2.binary".toList := by
    have letters : List.Forall₂ (fun a b => lowerChar a = lowerChar b ∨ a ∈ ['-', '_', '.'] ∧ b ∈ ['-', '_', '.'])
        "Psycopg2_Binary".toList "psycopg2.binary".toList := by decide +kernel
    exact letters
  have matched := (soleManifest_ofFile quotedText).filesMatching
  exact ⟨same, (declared_of_declarationLine quotedLine).2
    ⟨["pyproject.toml", "requirements*.txt"], [⟨"psycopg2.binary", none, .high⟩]⟩ _ _ _ quotedText _ matched
    List.mem_cons_self rfl (by decide +kernel) same⟩

end DeclaredDependencies

end Plumbline.Check
