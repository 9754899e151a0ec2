import Mathlib.Data.List.Forall2
import Plumbline.Proofs.Files.Resolution
import Plumbline.Proofs.Glob
import Plumbline.Site

namespace Plumbline

theorem mapM_eq_ok_of_forall₂ {α β ε : Type} {f : α → Except ε β} {xs : List α} {ys : List β}
    (each : List.Forall₂ (fun x y => f x = .ok y) xs ys) : xs.mapM f = .ok ys := by
  induction each with
  | nil => rfl
  | cons first _ ih =>
    rw [List.mapM_cons, first, ih]
    rfl

theorem bind_eq_ok_iff {α β ε : Type} {x : Except ε α} {f : α → Except ε β} {b : β} :
    x >>= f = .ok b ↔ ∃ a, x = .ok a ∧ f a = .ok b := by
  cases x with
  | error e =>
    refine iff_of_false (fun same => by cases same) ?_
    rintro ⟨_, same, _⟩
    cases same
  | ok a =>
    constructor
    · exact fun same => ⟨a, rfl, same⟩
    · rintro ⟨_, same, later⟩
      cases same
      exact later

/-- The dot leads to the working directory. -/
theorem FileSystem.node?_dot {files : FileSystem} {entries : List (String × Node)}
    (here : files.top.find? files.working = some (.directory entries)) :
    files.node? "." = some (.directory entries) := by
  have pieces : Path.pieces "." = ["."] := by decide
  have origin : files.origin "." = files.working := if_neg (by decide)
  have found : files.locate "." = .ok files.working := by
    rw [locate, String.contains_char_eq, if_neg (by decide), if_neg (by decide),
      if_neg (by decide), pieces, origin, List.foldlM_cons, step, here]
    rfl
  rw [node?, found]
  exact here

/-- A run at the dot takes its paths from the working directory. -/
theorem Site.locate_of_dot {site : Site} {path : String} (root : site.root = ".")
    (relative : Path.isAbsolute path = false) (usable : FileSystem.IsUsable ("." ++ "/" ++ path)) :
    site.files.locate (site.locate path) = ("." :: Path.pieces path).foldlM site.files.step site.files.working := by
  have joined : site.locate path = "." ++ "/" ++ path := by
    rw [Site.locate, Path.join, root, if_neg (Bool.eq_false_iff.mp relative), if_neg (by decide)]
  have origin : site.files.origin ("." ++ "/" ++ path) = site.files.working := by
    have dotted : Path.isAbsolute ("." ++ "/" ++ path) = false := by simp [Path.isAbsolute]
    rw [FileSystem.origin, if_neg (Bool.eq_false_iff.mp dotted)]
  have dot : Path.pieces "." = ["."] := by decide
  rw [joined, FileSystem.locate_of_isUsable usable, Path.pieces_append_slash, dot, origin]
  rfl

namespace PathPattern

theorem parse_eq_ok {pattern : String} {parts : List String} {globs : List (List Glob.Token)}
    (split : components pattern = parts)
    (each : List.Forall₂ (fun part glob => Glob.parse part.toList = .ok glob ∧ Glob.isRefused glob = false) parts
      globs) : parse pattern = .ok ⟨globs⟩ := by
  rw [parse, split, mapM_eq_ok_of_forall₂ (each.imp fun part glob ⟨parsed, accepted⟩ => ?_)]
  · rfl
  · rw [parsed]
    exact if_neg (Bool.eq_false_iff.mp accepted)

/-- A pattern matches the names that end in one for each of its globs. -/
theorem isMatch_iff {pattern : PathPattern} {names : List String} :
    pattern.isMatch names = true ↔
      pattern.globs ≠ [] ∧ ∃ lead last, names = lead ++ last ∧
        List.Forall₂ (fun glob name => Glob.isMatch glob name = true) pattern.globs last := by
  simp only [isMatch, Bool.and_eq_true, Bool.not_eq_true', List.isEmpty_eq_false_iff, decide_eq_true_eq, List.all_eq_true,
    and_assoc]
  refine and_congr_right fun _ => ?_
  constructor
  · rintro ⟨fits, each⟩
    refine ⟨names.take (names.length - pattern.globs.length), names.drop (names.length - pattern.globs.length),
      (List.take_append_drop _ _).symm, List.forall₂_iff_zip.mpr ⟨?_, fun paired => each _ paired⟩⟩
    rw [List.length_drop]
    omega
  · rintro ⟨lead, last, rfl, each⟩
    obtain ⟨length, each⟩ := List.forall₂_iff_zip.mp each
    refine ⟨by simp [length], ?_⟩
    rw [List.length_append, length, Nat.add_sub_cancel, List.drop_left]
    exact fun pair paired => each paired

/-- A pattern of one glob looks at the last name. -/
theorem isMatch_singleton_iff {glob : List Glob.Token} {names : List String} :
    isMatch ⟨[glob]⟩ names = true ↔ ∃ name, names.getLast? = some name ∧ Glob.isMatch glob name = true := by
  simp only [isMatch_iff, List.forall₂_cons_left_iff, List.forall₂_nil_left_iff, List.getLast?_eq_some_iff]
  constructor
  · rintro ⟨_, lead, _, rfl, name, _, found, rfl, rfl⟩
    exact ⟨name, ⟨lead, rfl⟩, found⟩
  · rintro ⟨name, ⟨lead, rfl⟩, found⟩
    exact ⟨List.cons_ne_nil glob [], lead, _, rfl, name, _, found, rfl, rfl⟩

end PathPattern

theorem Site.walk_of_directory {site : Site} {entries : List (String × Node)}
    (there : site.files.node? site.root = some (.directory entries)) :
    site.walk = .ok (Node.walkInto site.opens [] (Node.directory entries).sorted) := by
  rw [walk, there]

/-- A walk from the dot goes through the working directory. -/
theorem Site.walk_dot {site : Site} {entries : List (String × Node)} (root : site.root = ".")
    (here : site.files.top.find? site.files.working = some (.directory entries)) :
    site.walk = .ok (Node.walkInto site.opens [] (Node.directory entries).sorted) :=
  walk_of_directory (by rw [root, FileSystem.node?_dot here])

theorem Site.walk_dot_of_sorted {site : Site} {entries : List (String × Node)} (root : site.root = ".")
    (here : site.files.top.find? site.files.working = some (.directory entries))
    (sorted : (Node.directory entries).sorted = .directory entries) :
    site.walk = .ok (Node.walkInto site.opens [] (.directory entries)) := by
  rw [walk_dot root here, sorted]

/-- A run at the dot lists directories whose names make short paths. -/
theorem Site.opens_of_dot {site : Site} (root : site.root = ".") {places : List (List String)}
    (short : ∀ names ∈ places, (names.foldl Path.join ".").utf8ByteSize ≤ FileSystem.longestPath) :
    ∀ names ∈ places, site.opens names = true := by
  intro names member
  rw [opens, root, decide_eq_true_iff]
  exact short names member

/-- A tree with nothing but one file. -/
def Site.ofFile (name text : String) : Site := ⟨⟨.directory [(name, .file (some text))], []⟩, "."⟩

theorem Site.walkFiles_ofFile (name text : String) : (ofFile name text).walkFiles = .ok [⟨[name], some text⟩] := by
  rw [walkFiles, walk_dot rfl rfl]
  rfl

theorem Site.filesMatching_eq_ok_iff {site : Site} {pattern : String} {files : List FoundFile} :
    site.filesMatching [pattern] = .ok files ↔ ∃ compiled walked, PathPattern.parse pattern = .ok compiled ∧
      site.walkFiles = .ok walked ∧ files = walked.filter (compiled.isMatch ·.names) := by
  have single {compiled : List PathPattern} : PathPattern.parseAll [pattern] = .ok compiled ↔
      ∃ one, PathPattern.parse pattern = .ok one ∧ [one] = compiled := by
    rw [PathPattern.parseAll, List.mapM_cons, List.mapM_nil, bind_eq_ok_iff]
    refine exists_congr fun one => and_congr_right fun _ => ?_
    change Except.ok [one] = .ok compiled ↔ _
    rw [Except.ok.injEq]
  have kept (one : PathPattern) (walked : List FoundFile) :
      (walked.filter fun file => [one].any (·.isMatch file.names)) = walked.filter (one.isMatch ·.names) := by simp
  rw [filesMatching, bind_eq_ok_iff]
  simp only [bind_eq_ok_iff, single]
  constructor
  · rintro ⟨_, ⟨one, parsed, rfl⟩, walked, found, same⟩
    exact ⟨one, walked, parsed, found, (Except.ok.inj same).symm.trans (kept one walked)⟩
  · rintro ⟨one, walked, parsed, found, rfl⟩
    exact ⟨[one], ⟨one, parsed, rfl⟩, walked, found, congrArg Except.ok (kept one walked)⟩

/-- Where one file of a walk matches and no other one does, that one is found. -/
theorem Site.filesMatching_of_sole {site : Site} {patterns : List String} {compiled : List PathPattern}
    {before after : List FoundFile} {file : FoundFile} (parsed : PathPattern.parseAll patterns = .ok compiled)
    (walked : site.walkFiles = .ok (before ++ file :: after)) (kept : compiled.any (·.isMatch file.names) = true)
    (dropped : ∀ other ∈ before ++ after, ¬compiled.any (·.isMatch other.names) = true) :
    site.filesMatching patterns = .ok [file] := by
  have filtered : (before ++ file :: after).filter (fun file => compiled.any (·.isMatch file.names)) = [file] := by
    rw [List.filter_append, List.filter_cons, if_pos kept,
      List.filter_eq_nil_iff.mpr fun other member => dropped other (List.mem_append_left after member),
      List.filter_eq_nil_iff.mpr fun other member => dropped other (List.mem_append_right before member),
      List.nil_append]
  rw [filesMatching, parsed, walked]
  exact congrArg Except.ok filtered

end Plumbline
