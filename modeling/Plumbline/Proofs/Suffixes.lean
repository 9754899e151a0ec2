import Plumbline.Proofs.Phase.Scaffold
import Plumbline.Proofs.Removal

namespace Plumbline

namespace Path

/-- Whether a path is another one, or ends in it behind a slash. -/
def EndsIn (ending path : String) : Prop := path = ending ∨ ("/" ++ ending).toList <:+ path.toList

instance (ending path : String) : Decidable (EndsIn ending path) := inferInstanceAs (Decidable (_ ∨ _))

theorem endsIn_iff {ending path : String} : EndsIn ending path ↔ pieces ending <:+ pieces path := by
  have slash : ("/" ++ ending).toList = '/' :: ending.toList := by simp
  rw [pieces_suffix_iff, EndsIn, slash]
  exact or_congr_right ⟨fun ⟨lead, whole⟩ => ⟨lead, whole.symm⟩, fun ⟨lead, whole⟩ => ⟨lead, whole.symm⟩⟩

end Path

namespace PathPattern

/-- A letter or a digit of any script, or one of the other characters that plain paths are made of. -/
def isPathChar (c : Char) : Bool := Text.isAlphanumeric c || ['_', '-', '.', '/'].contains c

/-- A pattern that is nothing but a path. -/
def IsPath (pattern : String) : Prop := ∀ c ∈ pattern.toList, isPathChar c = true

-- The check goes through the characters of the pattern, never through all the characters there are.
instance (pattern : String) : Decidable (IsPath pattern) :=
  decidable_of_iff (pattern.toList.all isPathChar = true) List.all_eq_true

/-- Paths are told apart from globs by their characters. -/
theorem IsPath.isPlain {pattern : String} (path : IsPath pattern) : IsPlain pattern :=
  fun c member => Glob.isPlain_of_class (by decide +kernel) (path c member)

section Components

variable {pattern : String}

theorem of_mem_components {part : String} (member : part ∈ components pattern) :
    part ≠ "" ∧ '/' ∉ part.toList := by
  obtain ⟨piece, field, rfl⟩ := List.mem_map.mp member
  obtain ⟨cut, some⟩ := List.mem_filter.mp field
  refine ⟨fun empty => ?_, fun slash => ?_⟩
  · rw [← String.toList_eq_nil_iff, String.toList_ofList] at empty
    rw [empty] at some
    contradiction
  · rw [String.toList_ofList] at slash
    have apart := (Text.of_mem_split cut slash).2
    contradiction

/-- The path that the components of a pattern make is cut into these again. -/
theorem pieces_components (some : components pattern ≠ []) :
    Path.pieces (Path.ofSteps (components pattern)) = components pattern := by
  rw [Path.pieces_ofSteps_eq_flatMap some, Path.flatMap_pieces fun part member => (of_mem_components member).2]

/-- The globs of a pattern that is nothing but a path: each matches its component. -/
def literal (parts : List String) : PathPattern := ⟨parts.map fun part => part.toList.map .literal⟩

theorem isMatch_literal_iff {parts names : List String} (some : parts ≠ []) :
    (literal parts).isMatch names = true ↔ parts <:+ names := by
  have each (last : List String) : List.Forall₂ (fun glob name => Glob.isMatch glob name = true)
      (parts.map fun part => part.toList.map .literal) last ↔ last = parts := by
    have same (part name : String) : Glob.isMatch (part.toList.map .literal) name = true ↔ part = name := by
      rw [Glob.isMatch_literals, String.toList_inj, eq_comm]
    rw [List.forall₂_map_left_iff]
    simp only [same, List.forall₂_eq_eq_eq]
    exact eq_comm
  rw [isMatch_iff, and_iff_right (by simpa [literal] using some)]
  constructor
  · rintro ⟨lead, last, whole, matched⟩
    exact ⟨lead, by rw [whole, (each last).mp matched]⟩
  · rintro ⟨lead, whole⟩
    exact ⟨lead, parts, whole.symm, (each parts).mpr rfl⟩

/-- A pattern that is nothing but a path matches the paths that end in its components. -/
theorem isMatch_literal_components_iff (some : components pattern ≠ []) {names : List String}
    (named : ∀ name ∈ names, IsName name) : (literal (components pattern)).isMatch names = true ↔
      Path.EndsIn (Path.ofSteps (components pattern)) (Path.ofSteps names) := by
  rw [isMatch_literal_iff some, Path.endsIn_iff, pieces_components some]
  by_cases top : names = []
  · have empty : Path.pieces (Path.ofSteps []) = [""] := rfl
    obtain ⟨part, parts, split⟩ := List.exists_cons_of_ne_nil some
    have solid : part ≠ "" := (of_mem_components (split ▸ List.mem_cons_self)).1
    rw [top, empty, List.suffix_nil]
    refine iff_of_false some fun ends => ?_
    have inside : part ∈ [""] := ends.subset (split ▸ List.mem_cons_self)
    exact solid (List.mem_singleton.mp inside)
  · rw [Path.pieces_ofSteps top named]

end Components

section Plain

variable {pattern : String}

theorem IsPlain.parse_part (plain : IsPlain pattern) {part : String} (member : part ∈ components pattern) :
    Glob.parse part.toList = .ok (part.toList.map .literal) :=
  Glob.parse_of_plain (List.all_eq_true.mpr (plain.of_mem_components member))

theorem IsPlain.parse_eq_ok (plain : IsPlain pattern) (short : isOverlong pattern = false) :
    parse pattern = .ok (literal (components pattern)) := by
  refine PathPattern.parse_eq_ok rfl (List.forall₂_map_right_iff.mpr (List.forall₂_same.mpr fun part member => ?_))
  refine ⟨plain.parse_part member, Bool.eq_false_iff.mpr fun refused => ?_⟩
  rw [Glob.isRefused_literals, String.ofList_toList] at refused
  exact List.any_eq_false.mp short part member (decide_eq_true refused)

/-- An overlong pattern breaks off over one of its components. -/
theorem IsPlain.parse_eq_error (plain : IsPlain pattern) (long : isOverlong pattern = true) :
    ∃ part ∈ components pattern, parse pattern = .error (.deepPattern (part.toList.map .literal)) := by
  have faulty : fault? pattern ≠ none := fun none => by
    rw [plain.fault?_eq_none_iff.mp none] at long
    contradiction
  obtain ⟨e, fault⟩ := Option.ne_none_iff_exists'.mp faulty
  obtain ⟨part, member, breaks⟩ := exists_breaks_of_fault? fault
  refine ⟨part, member, ?_⟩
  have parsed := plain.parse_part member
  cases breaks with
  | notGlob bad => rw [parsed] at bad; cases bad
  | refused read _ =>
    cases parsed.symm.trans read
    exact failure?_eq_some_iff.mp fault

end Plain

/-- Whether a pattern stands for the paths that end in its components: it matches names just when the path that they make
is one, and the files that match, of all that a walk passes, are those on such paths, in the order of the walk. -/
structure StandsForEndings (pattern : String) : Prop where
  isMatch_iff : ∃ compiled, parse pattern = .ok compiled ∧ ∀ names, (∀ name ∈ names, IsName name) →
    (compiled.isMatch names = true ↔ Path.EndsIn (Path.ofSteps (components pattern)) (Path.ofSteps names))
  filesMatching : ∀ site : Site, site.WellFormed → site.hasRoot = true → ∃ walked, site.walkFiles = .ok walked ∧
    site.filesMatching [pattern] =
      .ok (walked.filter fun file => Path.EndsIn (Path.ofSteps (components pattern)) file.path)

/-- A pattern of letters, digits, underscores, dashes, dots and slashes stands for the paths that end in its components just
when none of these is longer than an expression can be. Otherwise it breaks off. -/
theorem standsForEndings_iff {pattern : String} (path : IsPath pattern) (some : components pattern ≠ []) :
    (StandsForEndings pattern ↔ ∀ part ∈ components pattern, part.utf8ByteSize ≤ Glob.maxLength) ∧
    ((∃ part ∈ components pattern, Glob.maxLength < part.utf8ByteSize) →
      ∃ part ∈ components pattern, parse pattern = .error (.deepPattern (part.toList.map .literal))) := by
  have short : isOverlong pattern = false ↔ ∀ part ∈ components pattern, part.utf8ByteSize ≤ Glob.maxLength := by
    simp [isOverlong]
  have long : isOverlong pattern = true ↔ ∃ part ∈ components pattern, Glob.maxLength < part.utf8ByteSize := by
    simp [isOverlong]
  rw [← short, ← long]
  refine ⟨⟨fun stands => ?_, fun short => ⟨?_, fun site formed rooted => ?_⟩⟩, path.isPlain.parse_eq_error⟩
  · by_contra long
    obtain ⟨_, _, broken⟩ := path.isPlain.parse_eq_error (Bool.of_not_eq_false long)
    obtain ⟨_, parsed, _⟩ := stands.isMatch_iff
    cases broken.symm.trans parsed
  · exact ⟨_, path.isPlain.parse_eq_ok short, fun names named => isMatch_literal_components_iff some named⟩
  · obtain ⟨walked, walks⟩ := Site.exists_walkFiles rooted
    refine ⟨walked, walks, Site.filesMatching_eq_ok_iff.mpr
      ⟨_, walked, path.isPlain.parse_eq_ok short, walks, List.filter_congr fun file member => ?_⟩⟩
    obtain ⟨_, named⟩ := formed.isName_of_mem_walkFiles walks member
    rw [Bool.eq_iff_iff, decide_eq_true_iff]
    exact (isMatch_literal_components_iff some named).symm

theorem standsForEndings_models : IsPath "./core/models.py" ∧ components "./core/models.py" = ["core", "models.py"] ∧
    StandsForEndings "./core/models.py" := by
  have path : IsPath "./core/models.py" := by decide +kernel
  have parts : components "./core/models.py" = ["core", "models.py"] := by decide +kernel
  have some : components "./core/models.py" ≠ [] := by
    rw [parts]
    exact List.cons_ne_nil _ _
  refine ⟨path, parts, (standsForEndings_iff path some).1.mpr fun part member => ?_⟩
  rw [parts] at member
  revert part
  decide +kernel

/-- A pattern of letters alone may stand for nothing. -/
theorem long_pattern_stands_for_nothing :
    ¬ ∀ pattern : String, IsPath pattern → components pattern ≠ [] → StandsForEndings pattern := by
  intro stands
  have path : IsPath (String.ofList Scaffold.longName) := fun c member => by
    rw [String.toList_ofList] at member
    rw [Scaffold.eq_of_mem_longName member]
    decide +kernel
  have long := Scaffold.isOverlong_longName
  have some : components (String.ofList Scaffold.longName) ≠ [] := fun none => by
    rw [isOverlong, none] at long
    cases long
  obtain ⟨part, _, broken⟩ := path.isPlain.parse_eq_error long
  obtain ⟨_, parsed, _⟩ := (stands _ path some).isMatch_iff
  cases broken.symm.trans parsed

end PathPattern

end Plumbline
