import Plumbline.Proofs.Blueprint.Holders
import Plumbline.Proofs.Phase.Scaffold
import Plumbline.Proofs.Check.FirstMatch
import Plumbline.Proofs.Text.Infix

namespace Plumbline

/-- Whether a name of a file, read as a pattern, matches itself. -/
def PathPattern.MatchesItself (file : String) : Prop :=
  ∃ pattern, parse file = .ok pattern ∧ pattern.isMatch [file] = true

theorem PathPattern.isMatch_of_getLast? {pattern : PathPattern} {file : String} {names : List String}
    (own : pattern.isMatch [file] = true) (last : names.getLast? = some file) : pattern.isMatch names = true := by
  obtain ⟨nonempty, lead, matched, split, each⟩ := isMatch_iff.mp own
  obtain ⟨above, rfl⟩ := List.getLast?_eq_some_iff.mp last
  exact isMatch_iff.mpr ⟨nonempty, above ++ lead, matched, by rw [split, List.append_assoc], each⟩

namespace Check

/-- Whether a file that can be read meets a requirement. -/
def MeetsIn (files : List FoundFile) (requirement : Requirement) : Prop :=
  ∃ file ∈ files, ∃ text ∈ file.text, requirement.isMetBy text = true

theorem any_isMetBy_iff {files : List FoundFile} {requirement : Requirement} :
    (files.filterMap (·.text)).any requirement.isMetBy = true ↔ MeetsIn files requirement := by
  simp only [List.any_eq_true, List.mem_filterMap, MeetsIn]
  constructor
  · rintro ⟨text, ⟨file, member, reads⟩, met⟩
    exact ⟨file, member, text, reads, met⟩
  · rintro ⟨file, member, text, reads, met⟩
    exact ⟨text, ⟨file, member, reads⟩, met⟩

theorem TextPresent.run_eq_nil_iff (check : TextPresent) (site : Site) : check.run site = .ok [] ↔
    ∃ files, site.filesMatching check.files = .ok files ∧ ∀ requirement ∈ check.requirements, MeetsIn files requirement := by
  have silent (texts : List String) (issue : Requirement → Issue) : (check.requirements.filterMap fun requirement =>
      if texts.any requirement.isMetBy then none else some (issue requirement)) = [] ↔
        ∀ requirement ∈ check.requirements, texts.any requirement.isMetBy = true := by
    simp
  rw [run, Site.textsMatching, bind_eq_ok_iff]
  simp only [bind_eq_ok_iff]
  constructor
  · rintro ⟨_, ⟨files, found, same⟩, passes⟩
    cases same
    exact ⟨files, found, fun requirement member =>
      any_isMetBy_iff.mp ((silent _ _).mp (Except.ok.inj passes) requirement member)⟩
  · rintro ⟨files, found, met⟩
    exact ⟨_, ⟨files, found, rfl⟩, congrArg Except.ok ((silent _ _).mpr fun requirement member =>
      any_isMetBy_iff.mpr (met requirement member))⟩

theorem FileContent.run_eq_nil_iff (check : FileContent) (site : Site) : check.run site = .ok [] ↔
    ∃ first rest, site.filesMatching [check.file] = .ok (first :: rest) ∧
      ∀ requirement ∈ check.requirements, requirement.isMetBy (first.text.getD "") = true := by
  rw [run_eq, Site.findFile?, bind_eq_ok_iff]
  simp only [bind_eq_ok_iff]
  constructor
  · rintro ⟨_, ⟨files, found, same⟩, passes⟩
    cases same
    cases files with
    | nil => cases passes
    | cons first rest => exact ⟨first, rest, found, content_eq_nil_iff.mp (Except.ok.inj passes)⟩
  · rintro ⟨first, rest, found, met⟩
    exact ⟨some first, ⟨first :: rest, found, rfl⟩, congrArg Except.ok (content_eq_nil_iff.mpr met)⟩

end Check

namespace Scaffold

open Check

variable {spec : Specification} {requirements : List Requirement}

/-- A requirement that says something: one of its ways is not empty, and so are they all. -/
def IsDefinite (requirement : Requirement) : Prop := requirement.anyOf ≠ [] ∧ ∀ way ∈ requirement.anyOf, way ≠ ""

theorem ite_ne {α : Type} {condition : Bool} {first second other : α} (here : first ≠ other) (there : second ≠ other) :
    (if condition then first else second) ≠ other := by
  cases condition with
  | true => exact here
  | false => exact there

theorem drivers?_ne_nil (database : String) : drivers? database ≠ some [] := by
  unfold drivers?
  split
  · exact nofun
  · exact nofun
  · exact nofun

theorem waysToMeet?_ne_nil (expectation : String) : waysToMeet? spec expectation ≠ some [] := by
  unfold waysToMeet?
  refine ite_ne nofun <| ite_ne nofun <| ite_ne nofun <| ite_ne nofun <| ite_ne nofun <| ite_ne nofun <| ite_ne nofun <|
    ite_ne (ite_ne nofun nofun) <| ite_ne nofun <| ite_ne (drivers?_ne_nil spec.database) <| ite_ne nofun nofun

theorem isDefinite_of_requirement? {expectation : String} {requirement : Requirement}
    (asked : requirement? spec expectation = some requirement) : IsDefinite requirement := by
  obtain ⟨ways, meets, asked⟩ := Option.bind_eq_some_iff.mp asked
  split at asked
  · cases asked
  · rename_i filled
    cases asked
    refine ⟨fun none : ways = [] => waysToMeet?_ne_nil expectation (none ▸ meets), fun way member empty => filled ?_⟩
    exact List.any_eq_true.mpr ⟨way, member, by rw [empty]; rfl⟩

theorem IsDefinite.not_isMetBy_empty {requirement : Requirement} (definite : IsDefinite requirement) :
    requirement.isMetBy "" = false := by
  rw [Requirement.isMetBy, List.any_eq_false]
  intro way member occurs
  have empty : way.toList = [] := List.isEmpty_iff.mp occurs
  exact definite.2 way member (String.toList_eq_nil_iff.mp empty)

/-- A text that says everything that is required. -/
def fullText (requirements : List Requirement) : String :=
  String.ofList (requirements.flatMap fun requirement => (requirement.anyOf.headD "").toList)

theorem isMetBy_fullText {requirement : Requirement} (definite : IsDefinite requirement)
    (member : requirement ∈ requirements) : requirement.isMetBy (fullText requirements) = true := by
  obtain ⟨way, ways, filled⟩ := List.exists_cons_of_ne_nil definite.1
  obtain ⟨before, behind, rfl⟩ := List.append_of_mem member
  refine List.any_eq_true.mpr ⟨way, by simp [filled], Text.contains_iff.mpr ?_⟩
  rw [fullText, String.toList_ofList, List.flatMap_append, List.flatMap_cons, filled, ← List.append_assoc]
  exact ⟨_, _, rfl⟩

/-- The rule about the content of a file. -/
def contentRule (spec : Specification) (file : String) (requirements : List Requirement) : Rule :=
  ⟨ruleName "content_" file, s!"Content expected in {file}", .high, .content, contentCheck spec file requirements⟩

/-- What is required of a file that something is expected of. -/
def requirementsOf (spec : Specification) (expectations : List String) : List Requirement :=
  expectations.filterMap (requirement? spec)

theorem isDefinite_of_mem_requirementsOf {expectations : List String} :
    ∀ requirement ∈ requirementsOf spec expectations, IsDefinite requirement := by
  intro requirement member
  obtain ⟨expectation, _, asked⟩ := List.mem_filterMap.mp member
  exact isDefinite_of_requirement? asked

theorem contentRule_mem {file : String} {expectations : List String}
    (member : (file, expectations) ∈ spec.contentExpectations.entries) (asks : requirementsOf spec expectations ≠ []) :
    contentRule spec file (requirementsOf spec expectations) ∈ contentRules spec := by
  have some : (!(requirementsOf spec expectations).isEmpty) = true := by simpa using asks
  exact List.mem_flatMap.mpr ⟨_, member, Rule.mem_given_iff.mpr ⟨some, rfl⟩⟩

section Copies

variable {file : String}

/-- Whether each requirement is met by a file of this name, of those that a walk passes. -/
def MetByCopies (site : Site) (file : String) (requirements : List Requirement) : Prop :=
  ∃ walked, site.walkFiles = .ok walked ∧ ∀ requirement ∈ requirements, MeetsIn (walked.filter (·.name == file)) requirement

/-- The rule for a file that directories of different names hold looks at all files that match. -/
theorem contentCheck_of_heldVariously (held : spec.layout.IsHeldVariously file) :
    contentCheck spec file requirements = .textPresent ⟨[file], "missing_content", requirements⟩ :=
  if_pos (Layout.one_lt_length_holders_iff.mpr held)

/-- The rule for any other file looks at the first one that matches. -/
theorem contentCheck_of_not_heldVariously (held : ¬ spec.layout.IsHeldVariously file) :
    contentCheck spec file requirements = .fileContent ⟨file, .high, requirements⟩ :=
  if_neg fun several => held (Layout.one_lt_length_holders_iff.mp several)

/-- A rule that passes has found a file. -/
theorem exists_file_of_passes {site : Site} (asks : requirements ≠ [])
    (passes : (contentCheck spec file requirements).run site = .ok []) :
    ∃ first rest, site.filesMatching [file] = .ok (first :: rest) := by
  by_cases held : spec.layout.IsHeldVariously file
  · rw [contentCheck_of_heldVariously held] at passes
    obtain ⟨files, found, met⟩ := (TextPresent.run_eq_nil_iff _ site).mp passes
    obtain ⟨requirement, member⟩ := List.exists_mem_of_ne_nil _ asks
    obtain ⟨copy, here, _⟩ := met requirement member
    obtain ⟨first, rest, rfl⟩ := List.exists_cons_of_ne_nil (List.ne_nil_of_mem here)
    exact ⟨first, rest, found⟩
  · rw [contentCheck_of_not_heldVariously held] at passes
    obtain ⟨first, rest, found, _⟩ := (FileContent.run_eq_nil_iff _ site).mp passes
    exact ⟨first, rest, found⟩

theorem passes_of_heldVariously {site : Site} (named : IsName file) (held : spec.layout.IsHeldVariously file)
    (matched : PathPattern.MatchesItself file) (met : MetByCopies site file requirements) :
    (contentCheck spec file requirements).run site = .ok [] := by
  obtain ⟨pattern, parsed, own⟩ := matched
  obtain ⟨walked, found, met⟩ := met
  rw [contentCheck_of_heldVariously held]
  refine (TextPresent.run_eq_nil_iff _ site).mpr ⟨_, Site.filesMatching_eq_ok_iff.mpr ⟨pattern, walked, parsed, found, rfl⟩,
    fun requirement member => ?_⟩
  obtain ⟨copy, there, reads⟩ := met requirement member
  obtain ⟨inWalk, called⟩ := List.mem_filter.mp there
  have last : copy.names.getLast? = some file := by
    have called : copy.names.getLastD "" = file := eq_of_beq called
    cases names : copy.names.getLast? with
    | none =>
      rw [List.getLastD_eq_getLast?, names] at called
      exact absurd called.symm named.1
    | some name => rw [← called, List.getLastD_eq_getLast?, names, Option.getD_some]
  exact ⟨copy, List.mem_filter.mpr ⟨inWalk, PathPattern.isMatch_of_getLast? own last⟩, reads⟩

theorem wellFormed_ofFile (named : IsName file) (text : String) : (Site.ofFile file text).WellFormed :=
  .directory (List.pairwise_singleton ..) (List.forall_mem_singleton.mpr named) (List.forall_mem_singleton.mpr (.file _))

theorem metByCopies_ofFile (definite : ∀ requirement ∈ requirements, IsDefinite requirement) :
    MetByCopies (Site.ofFile file (fullText requirements)) file requirements := by
  refine ⟨_, Site.walkFiles_ofFile file _, fun requirement member => ?_⟩
  exact ⟨⟨[file], some (fullText requirements)⟩, by simp [FoundFile.name], _, rfl,
    isMetBy_fullText (definite requirement member) member⟩

/-- A rule that passes where nothing but the file stands has matched its name. -/
theorem matchesItself_of_passes {text : String} (asks : requirements ≠ [])
    (passes : (contentCheck spec file requirements).run (Site.ofFile file text) = .ok []) :
    PathPattern.MatchesItself file := by
  obtain ⟨first, rest, found⟩ := exists_file_of_passes asks passes
  obtain ⟨pattern, walked, parsed, walks, files⟩ := Site.filesMatching_eq_ok_iff.mp found
  cases (Site.walkFiles_ofFile file text).symm.trans walks
  have kept : first ∈ [(⟨[file], some text⟩ : FoundFile)].filter (pattern.isMatch ·.names) :=
    files ▸ List.mem_cons_self
  obtain ⟨only, matched⟩ := List.mem_filter.mp kept
  rw [List.mem_singleton.mp only] at matched
  exact ⟨pattern, parsed, matched⟩

/-- A site with two copies of a file, the first one empty. -/
def copiesSite (file text : String) : Site :=
  ⟨⟨.directory [("a", .directory [(file, .file (some ""))]), ("b", .directory [(file, .file (some text))])], []⟩, "."⟩

theorem walkFiles_copiesSite (file text : String) :
    (copiesSite file text).walkFiles = .ok [⟨["a", file], some ""⟩, ⟨["b", file], some text⟩] := by
  have opened : ∀ names ∈ [[], ["a"], ["b"]], (copiesSite file text).opens names = true :=
    Site.opens_of_dot rfl (by decide)
  have sorted : (copiesSite file text).files.top.sorted = (copiesSite file text).files.top :=
    Node.sorted_directory_eq_self (List.pairwise_pair.mpr (by decide : "a" < "b"))
      (List.forall_mem_cons.mpr ⟨rfl, List.forall_mem_singleton.mpr rfl⟩)
  simp only [List.forall_mem_cons] at opened
  rw [Site.walkFiles, Site.walk_dot_of_sorted rfl rfl sorted]
  simp [Node.walkInto, Node.walk, Node.isSkipped, Node.skippedNames, opened]

theorem wellFormed_copiesSite (named : IsName file) (text : String) : (copiesSite file text).WellFormed := by
  have copy (text : String) : (Node.directory [(file, .file (some text))]).WellFormed :=
    .directory (List.pairwise_singleton ..) (List.forall_mem_singleton.mpr named)
      (List.forall_mem_singleton.mpr (.file _))
  have order : "a" < "b" := by decide
  have first : IsName "a" := by decide
  have second : IsName "b" := by decide
  refine .directory (List.pairwise_pair.mpr order) ?_ ?_
  · exact List.forall_mem_cons.mpr ⟨first, List.forall_mem_singleton.mpr second⟩
  · exact List.forall_mem_cons.mpr ⟨copy "", List.forall_mem_singleton.mpr (copy text)⟩

theorem metByCopies_copiesSite (definite : ∀ requirement ∈ requirements, IsDefinite requirement) :
    MetByCopies (copiesSite file (fullText requirements)) file requirements := by
  refine ⟨_, walkFiles_copiesSite file _, fun requirement member => ?_⟩
  exact ⟨⟨["b", file], some (fullText requirements)⟩, by simp [FoundFile.name], _, rfl,
    isMetBy_fullText (definite requirement member) member⟩

/-- The first copy, which is empty, meets nothing that is required. -/
theorem not_passes_of_not_heldVariously (definite : ∀ requirement ∈ requirements, IsDefinite requirement)
    (asks : requirements ≠ []) (matched : PathPattern.MatchesItself file) (held : ¬ spec.layout.IsHeldVariously file)
    (text : String) : (contentCheck spec file requirements).run (copiesSite file text) ≠ .ok [] := by
  intro passes
  rw [contentCheck_of_not_heldVariously held] at passes
  obtain ⟨first, rest, found, met⟩ := (FileContent.run_eq_nil_iff _ _).mp passes
  obtain ⟨pattern, walked, parsed, walks, files⟩ := Site.filesMatching_eq_ok_iff.mp found
  obtain ⟨pattern', parsed', own⟩ := matched
  cases parsed.symm.trans parsed'
  cases (walkFiles_copiesSite file text).symm.trans walks
  have here : pattern.isMatch ["a", file] = true := PathPattern.isMatch_of_getLast? own rfl
  rw [List.filter_cons_of_pos (by exact here)] at files
  obtain ⟨rfl, _⟩ := List.cons.inj files
  obtain ⟨requirement, member⟩ := List.exists_mem_of_ne_nil _ asks
  exact Bool.false_ne_true ((definite requirement member).not_isMetBy_empty.symm.trans (met requirement member))

end Copies

/-- The rule about a file with expectations passes on every site whose copies of the file meet what is required, exactly
when the layout holds the file in directories of different names and the name of the file is a pattern for itself. -/
theorem contentRule_passes_iff (spec : Specification) {file : String} (named : IsName file)
    {expectations : List String} (member : (file, expectations) ∈ spec.contentExpectations.entries)
    (asks : requirementsOf spec expectations ≠ []) :
    contentRule spec file (requirementsOf spec expectations) ∈ contentRules spec ∧
      ((∀ site : Site, site.WellFormed → MetByCopies site file (requirementsOf spec expectations) →
        (contentRule spec file (requirementsOf spec expectations)).check.run site = .ok []) ↔
          spec.layout.IsHeldVariously file ∧ PathPattern.MatchesItself file) := by
  refine ⟨contentRule_mem member asks, fun always => ?_, fun both site _ met =>
    passes_of_heldVariously named both.1 both.2 met⟩
  have definite : ∀ requirement ∈ requirementsOf spec expectations, IsDefinite requirement :=
    isDefinite_of_mem_requirementsOf
  have matched : PathPattern.MatchesItself file :=
    matchesItself_of_passes asks (always _ (wellFormed_ofFile named _) (metByCopies_ofFile definite))
  have passes := always _ (wellFormed_copiesSite named _) (metByCopies_copiesSite definite)
  exact ⟨by_contra fun held => not_passes_of_not_heldVariously definite asks matched held _ passes, matched⟩

/-- A specification that expects something of models, with a layout. -/
def expecting (layout : Layout) : Specification :=
  { Specification.empty with
    layout := layout
    contentExpectations := .ofList [("models.py", ["Models carry a tenant field"])] }

theorem requirementsOf_expecting (layout : Layout) : requirementsOf (expecting layout) ["Models carry a tenant field"] =
    [⟨"Models carry a tenant field", ["tenant =", "tenant="], .high⟩] := by
  rfl

theorem matchesItself_models : PathPattern.MatchesItself "models.py" := by
  have alone : PathPattern.components "models.py" = ["models.py"] := by decide +kernel
  have glob : Glob.parse "models.py".toList = .ok ("models.py".toList.map .literal) :=
    Glob.parse_of_plain (by decide +kernel)
  exact ⟨_, PathPattern.parse_eq_ok alone (.cons ⟨glob, by decide +kernel⟩ .nil), by decide +kernel⟩

def modelsDirectory : LayoutNode := .directory [("models.py", .file)]

/-- Two applications with models, under different names. -/
def apart : Layout := ⟨[("loans", modelsDirectory), ("users", modelsDirectory)]⟩

/-- Models of an application, and others at the top. -/
def atTop : Layout := ⟨[("loans", modelsDirectory), ("models.py", .file)]⟩

theorem contentRule_passes_on_second_copy : ∃ rule ∈ contentRules (expecting apart),
    rule.check.run (copiesSite "models.py" "tenant = 1") = .ok [] := by
  have named : IsName "models.py" := by decide
  obtain ⟨member, passes⟩ := contentRule_passes_iff (expecting apart) named List.mem_cons_self (by
    rw [requirementsOf_expecting]
    exact List.cons_ne_nil _ _)
  refine ⟨_, member, passes.mpr ⟨Layout.one_lt_length_holders_iff.mp (by decide), matchesItself_models⟩ _
    (wellFormed_copiesSite named _) ⟨_, walkFiles_copiesSite _ _, ?_⟩⟩
  rw [requirementsOf_expecting, List.forall_mem_singleton]
  exact ⟨⟨["b", "models.py"], some "tenant = 1"⟩, by simp [FoundFile.name], _, rfl, by decide⟩

/-- Copies at the top or in directories of one name do not count as several. -/
theorem copies_not_counted :
    ¬ ∀ (spec : Specification) (file : String) (expectations : List String), IsName file →
      (file, expectations) ∈ spec.contentExpectations.entries → requirementsOf spec expectations ≠ [] →
      1 < (spec.layout.copies file).length → ∀ site : Site, site.WellFormed →
        MetByCopies site file (requirementsOf spec expectations) →
        (contentRule spec file (requirementsOf spec expectations)).check.run site = .ok [] := by
  intro always
  have named : IsName "models.py" := by decide
  have definite : ∀ requirement ∈ requirementsOf (expecting atTop) ["Models carry a tenant field"],
      IsDefinite requirement := isDefinite_of_mem_requirementsOf
  have asks : requirementsOf (expecting atTop) ["Models carry a tenant field"] ≠ [] := by
    rw [requirementsOf_expecting]
    exact List.cons_ne_nil _ _
  have passes := always (expecting atTop) "models.py" ["Models carry a tenant field"] named List.mem_cons_self asks
    (by decide) _ (wellFormed_copiesSite named _) (metByCopies_copiesSite definite)
  have held : ¬ (expecting atTop).layout.IsHeldVariously "models.py" :=
    fun held => absurd (Layout.one_lt_length_holders_iff.mpr held) (by decide)
  exact not_passes_of_not_heldVariously definite asks matchesItself_models held _ passes

/-- Two applications with models, under one name. -/
def namesakes : Layout :=
  ⟨[("new", .directory [("loans", modelsDirectory)]), ("old", .directory [("loans", modelsDirectory)])]⟩

example : namesakes.copies "models.py" = [["new", "loans", "models.py"], ["old", "loans", "models.py"]] ∧
    namesakes.holders "models.py" = ["loans"] := by
  decide

end Scaffold

end Plumbline
