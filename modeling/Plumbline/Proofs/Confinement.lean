import Plumbline.Proofs.Check.Agreement

namespace Plumbline

namespace Site

variable {site : Site}

/-- A site without all that is neither below the root nor on the way there. -/
def stripped (site : Site) : Site :=
  { site with files := { site.files with top := site.files.top.prune fun visited => decide (site.IsWithin visited) } }

theorem WellFormed.stripped (formed : site.WellFormed) : site.stripped.WellFormed := formed.prune

theorem find?_stripped {visited : List String} (within : site.IsWithin visited) :
    site.stripped.files.top.find? visited =
      (site.files.top.find? visited).map (Node.prune fun rest => decide (site.IsWithin (visited ++ rest))) :=
  Node.find?_prune fun _ _ before => decide_eq_true (isWithin_of_above within before)

theorem isWithin_of_find?_stripped {visited : List String} {node : Node}
    (found : site.stripped.files.top.find? visited = some node) : site.IsWithin visited := by
  rcases List.eq_nil_or_concat visited with rfl | ⟨lead, name, rfl⟩
  · exact isWithin_of_above (isWithin_of_mem_way place_mem_way) ⟨_, List.nil_append _⟩
  · rw [List.concat_eq_append] at found ⊢
    exact of_decide_eq_true (Node.kept_of_find?_prune found)

/-- The root stands where it stood. -/
theorem locate_root_stripped {place : List String} :
    site.stripped.files.locate site.root = .ok place ↔ site.files.locate site.root = .ok place := by
  rw [FileSystem.locate_eq_ok_iff, FileSystem.locate_eq_ok_iff]
  refine and_congr_right fun _ => ⟨fun led => ?_, fun led => ?_⟩
  · refine FileSystem.foldlM_step_transfer (fun visited member node found => ?_) led
    rw [find?_stripped (isWithin_of_mem_way member)] at found
    obtain ⟨whole, there, rfl⟩ := Option.map_eq_some_iff.mp found
    exact ⟨whole, there, (Node.isDirectory_prune whole).symm⟩
  · refine FileSystem.foldlM_step_transfer (fun visited member node found => ?_) led
    have within : site.IsWithin visited := isWithin_of_mem_way member
    rw [find?_stripped within, found]
    exact ⟨_, rfl, Node.isDirectory_prune node⟩

theorem node?_root_stripped :
    site.stripped.files.node? site.root =
      (site.files.node? site.root).map (Node.prune fun rest => decide (site.IsWithin (site.place ++ rest))) := by
  have within : site.IsWithin site.place := isWithin_of_mem_way place_mem_way
  have here := find?_stripped within
  ext node
  rw [FileSystem.node?_eq_some_iff, Option.map_eq_some_iff]
  constructor
  · rintro ⟨place, led, there⟩
    have led := locate_root_stripped.mp led
    cases FileSystem.eq_follow_of_locate led
    obtain ⟨whole, found, pruned⟩ := Option.map_eq_some_iff.mp (here.symm.trans there)
    exact ⟨whole, FileSystem.node?_eq_some_iff.mpr ⟨_, led, found⟩, pruned⟩
  · rintro ⟨whole, found, rfl⟩
    obtain ⟨place, led, there⟩ := FileSystem.node?_eq_some_iff.mp found
    cases FileSystem.eq_follow_of_locate led
    exact ⟨_, locate_root_stripped.mpr led, here.trans (congrArg _ there)⟩

theorem agrees_stripped : site.Agrees site.stripped := by
  refine ⟨rfl, rfl, fun place => ?_⟩
  have root : site.stripped.files.node? site.stripped.root = _ := node?_root_stripped
  rw [root]
  cases site.files.node? site.root with
  | none => rfl
  | some node =>
    have whole : (node.prune fun rest => decide (site.IsWithin (site.place ++ rest))).find? place =
        (node.find? place).map _ :=
      Node.find?_prune fun lead name _ => decide_eq_true (Or.inl (List.prefix_append _ _))
    rw [Option.map_some, Option.bind_some, Option.bind_some, whole, Option.map_map]
    exact congrArg (Option.map · _) (funext fun found => (Node.kind_prune found).symm)

theorem staysWithin_of_node?_stripped {path : String} {node : Node}
    (found : site.stripped.files.node? (site.stripped.locate path) = some node) : site.stripped.StaysWithin path := by
  obtain ⟨place, led, there⟩ := FileSystem.node?_eq_some_iff.mp found
  intro visited member
  rw [← agrees_stripped.isWithin_iff]
  rcases FileSystem.directoryAt_of_mem_places (FileSystem.locate_eq_ok_iff.mp led).2 member with rfl | ⟨entries, passed⟩
  · exact isWithin_of_find?_stripped there
  · exact isWithin_of_find?_stripped passed

end Site

namespace Check

variable {sought : Sought} {site : Site} {path : String}

theorem Sought.isAt_of_staysWithin {a b : Site} (agree : a.Agrees b) (formed : a.WellFormed) (formed' : b.WellFormed)
    (rooted : a.hasRoot = true) (stays : a.StaysWithin path) (met : sought.isAt a path = true) :
    sought.isAt b path = true := by
  obtain ⟨node, found, accepted⟩ := isAt_iff.mp met
  obtain ⟨node', found', same⟩ := agree.node?_of_staysWithin formed formed' rooted stays found
  exact isAt_iff.mpr ⟨node', found', (accepts_congr same sought).trans accepted⟩

/-- What is left of a site meets nothing that leads out. -/
theorem Sought.staysWithin_of_isAt_stripped (met : sought.isAt site.stripped path = true) :
    site.stripped.StaysWithin path := by
  obtain ⟨_, found, _⟩ := isAt_iff.mp met
  exact Site.staysWithin_of_node?_stripped found

theorem isPlain_of_demand_eq {required : String} (plain : Path.IsPlain required)
    (same : RequiredPaths.demand required = .stands sought path) : Path.IsPlain path := by
  rw [RequiredPaths.demand] at same
  split at same
  · rename_i slashed
    cases same
    obtain ⟨lead, whole⟩ := List.getLast?_eq_some_iff.mp slashed
    have cut : required = String.ofList required.toList.dropLast ++ "/" := by
      rw [← String.toList_inj, whole]
      simp
    exact Path.IsPlain.of_append_slash (cut ▸ plain)
  · cases same
    exact plain

/-- A demand inside a package is one inside a directory below the root. -/
theorem exists_package_of_mem_demands {app : String} {absent : List Demand} {inside : List String → List Demand}
    (formed : site.WellFormed) (missing : .stands sought path ∉ absent)
    (member : .stands sought path ∈ packageDemands site app absent inside) :
    ∃ names, Path.IsPlain (Path.ofSteps names) ∧ .stands sought path ∈ inside names := by
  rw [packageDemands] at member
  split at member
  · rename_i names rest found
    exact ⟨names, (isPlain_of_package formed found).2, member⟩
  · exact absurd member missing
  · cases member

theorem AppStructure.isPlain_of_mem_inside {check : AppStructure} {names : List String}
    (below : Path.IsPlain (Path.ofSteps names)) (plain : ∀ file ∈ check.requiredFiles, Path.IsPlain file)
    (member : .stands sought path ∈ check.inside names) : Path.IsPlain path := by
  rcases List.mem_append.mp member with required | tests
  · obtain ⟨file, listed, same⟩ := List.mem_map.mp required
    cases same
    exact below.join (plain file listed)
  · split at tests
    · cases List.mem_singleton.mp tests
      exact below.join (by decide)
    · cases tests

theorem TestLayout.isPlain_of_mem_inside {check : TestLayout} {names : List String}
    (below : Path.IsPlain (Path.ofSteps names)) (plain : ∀ file ∈ check.requiredFiles, Path.IsPlain file)
    (member : .stands sought path ∈ check.inside site names) : Path.IsPlain path := by
  have tests : Path.IsPlain (Path.join (Path.ofSteps names) "tests") := below.join (by decide)
  rcases List.mem_cons.mp member with same | required
  · cases same
    exact tests
  · split at required
    · obtain ⟨file, listed, same⟩ := List.mem_map.mp required
      cases same
      rcases List.mem_cons.mp listed with rfl | listed
      · exact tests.join (by decide)
      · exact tests.join (plain file listed)
    · cases required

end Check

open Check

namespace CheckSpec

/-- Whether a demand of a check is met by way of a place that is neither below the root nor on the way there. -/
def ReachesOut (check : CheckSpec) (site : Site) : Prop :=
  site.hasRoot = true ∧ ∃ sought path, .stands sought path ∈ check.demands site ∧ sought.isAt site path = true ∧
    ¬ site.StaysWithin path

/-- Whether the paths among the parameters of a check are relative and without two dots. -/
def IsPlain : CheckSpec → Prop
  | requiredPaths check => ∀ path ∈ check.paths, Path.IsPlain path
  | appStructure check => ∀ file ∈ check.requiredFiles, Path.IsPlain file
  | testLayout check => ∀ file ∈ check.requiredFiles, Path.IsPlain file
  | _ => True

variable {check : CheckSpec} {site : Site}

theorem staysWithin_of_not_reachesOut (confined : ¬ check.ReachesOut site) (rooted : site.hasRoot = true)
    {sought : Sought} {path : String} (member : .stands sought path ∈ check.demands site)
    (met : sought.isAt site path = true) : site.StaysWithin path := by
  by_contra out
  exact confined ⟨rooted, sought, path, member, met, out⟩

theorem not_reachesOut_stripped : ¬ check.ReachesOut site.stripped := by
  rintro ⟨_, sought, path, _, met, out⟩
  exact out (Sought.staysWithin_of_isAt_stripped met)

/-- A check that reaches out of neither of two agreeing sites cannot tell them apart. -/
theorem run_eq_of_not_reachesOut {other : Site} (agree : site.Agrees other) (formed : site.WellFormed)
    (formed' : other.WellFormed) (confined : ¬ check.ReachesOut site) (confined' : ¬ check.ReachesOut other) :
    check.run site = check.run other := by
  refine run_of_agrees agree formed formed' check fun rooted demand member => ?_
  have rooted' : other.hasRoot = true := agree.hasRoot ▸ rooted
  have member' : demand ∈ check.demands other := demands_of_agrees agree formed formed' check ▸ member
  cases demand with
  | package => rfl
  | stands sought path =>
    rw [Bool.eq_iff_iff, Demand.isMet, Demand.isMet]
    constructor
    · intro met
      have stays := staysWithin_of_not_reachesOut confined rooted member met
      exact Sought.isAt_of_staysWithin agree formed formed' rooted stays met
    · intro met
      have stays := staysWithin_of_not_reachesOut confined' rooted' member' met
      exact Sought.isAt_of_staysWithin agree.symm formed' formed rooted' stays met

/-- A check that reaches out of a site misses something when all else is gone. -/
theorem run_stripped_ne_of_reachesOut (formed : site.WellFormed) (reaches : check.ReachesOut site) :
    check.run site ≠ check.run site.stripped := by
  obtain ⟨rooted, sought, path, member, met, out⟩ := reaches
  have agree : site.Agrees site.stripped := Site.agrees_stripped
  have rooted' : site.stripped.hasRoot = true := agree.hasRoot ▸ rooted
  have demands := demands_of_agrees agree formed formed.stripped check
  have fewer : ∀ demand : Demand, demand.isMet site.stripped = true → demand.isMet site = true := by
    intro demand met
    cases demand with
    | package => cases met
    | stands sought path =>
      exact Sought.isAt_of_staysWithin agree.symm formed.stripped formed rooted'
        (Sought.staysWithin_of_isAt_stripped met) met
  intro same
  obtain ⟨issues, ran, count⟩ := length_run rooted member
  obtain ⟨issues', ran', count'⟩ := length_run rooted' (demands ▸ member)
  have issuesSame : issues = issues' := Except.ok.inj (ran.symm.trans (same.trans ran'))
  have unmetSame : unmet site (check.demands site) = unmet site.stripped (check.demands site) := by
    rw [← count, issuesSame, count', demands]
  have met' : sought.isAt site.stripped path = true := isMet_of_unmet_eq fewer unmetSame member met
  exact out (agree.staysWithin_iff.mpr (Sought.staysWithin_of_isAt_stripped met'))

theorem isPlain_of_mem_demands (formed : site.WellFormed) (plain : check.IsPlain) {sought : Sought} {path : String}
    (member : .stands sought path ∈ check.demands site) : Path.IsPlain path := by
  cases check with
  | requiredPaths check =>
    obtain ⟨required, listed, same⟩ := List.mem_map.mp member
    exact isPlain_of_demand_eq (plain required listed) same
  | appStructure check =>
    obtain ⟨app, _, member⟩ := List.mem_flatMap.mp member
    have other : Demand.stands sought path ∉ [.package] := by simp
    obtain ⟨names, below, member⟩ := exists_package_of_mem_demands formed other member
    exact AppStructure.isPlain_of_mem_inside below plain member
  | testLayout check =>
    obtain ⟨app, _, member⟩ := List.mem_flatMap.mp member
    obtain ⟨names, below, member⟩ := exists_package_of_mem_demands formed List.not_mem_nil member
    exact TestLayout.isPlain_of_mem_inside below plain member
  | _ => cases member

theorem not_reachesOut_of_isPlain (formed : site.WellFormed) (plain : check.IsPlain) : ¬ check.ReachesOut site := by
  rintro ⟨rooted, sought, path, member, _, out⟩
  exact out (Site.staysWithin_of_isPlain rooted (isPlain_of_mem_demands formed plain member))

/-- A check with plain paths tells agreeing sites never apart. Any other check does so just where it reaches out: its
result on a site is the one on every agreeing site that it does not reach out of if, and only if, it does not reach out
of this one. -/
theorem run_confined (check : CheckSpec) :
    (check.IsPlain → ∀ a b : Site, a.WellFormed → b.WellFormed → a.Agrees b → check.run a = check.run b) ∧
    ∀ site : Site, site.WellFormed →
      ((∀ other : Site, other.WellFormed → site.Agrees other → ¬ check.ReachesOut other →
          check.run site = check.run other) ↔
        ¬ check.ReachesOut site) := by
  refine ⟨fun plain a b formed formed' agree => ?_, fun site formed => ⟨fun alike reaches => ?_, ?_⟩⟩
  · exact run_eq_of_not_reachesOut agree formed formed' (not_reachesOut_of_isPlain formed plain)
      (not_reachesOut_of_isPlain formed' plain)
  · have same := alike site.stripped formed.stripped Site.agrees_stripped not_reachesOut_stripped
    exact run_stripped_ne_of_reachesOut formed reaches same
  · intro confined other formed' agree confined'
    exact run_eq_of_not_reachesOut agree formed formed' confined confined'

end CheckSpec

namespace Site

/-- A directory `sub` to run checks in, with a file beside it. -/
def accompanied : Site where
  files := ⟨.directory [("root", .directory [("outside.txt", .file (some "x")), ("sub", .directory [])])], []⟩
  root := "root/sub"

/-- The same directory with nothing beside it. -/
def alone : Site where
  files := ⟨.directory [("root", .directory [("sub", .directory [])])], []⟩
  root := "root/sub"

theorem stripped_accompanied : accompanied.stripped = alone := rfl

theorem wellFormed_accompanied : accompanied.WellFormed := by
  let empty : FileSystem := ⟨.directory [], []⟩
  have made : accompanied.files = (empty.put "root/sub" (.directory [])).put "root/outside.txt" (.file (some "x")) := rfl
  have first : (empty.put "root/sub" (.directory [])).top.WellFormed :=
    FileSystem.wellFormed_put Node.wellFormed_empty Node.wellFormed_empty (List.forall_mem_nil _)
  rw [WellFormed, made]
  exact FileSystem.wellFormed_put first (.file _) (List.forall_mem_nil _)

theorem hasRoot_accompanied : accompanied.hasRoot = true := by
  have usable : FileSystem.IsUsable accompanied.root := by decide
  rw [hasRoot, FileSystem.isDirectory, FileSystem.node?, FileSystem.locate_of_isUsable usable]
  decide

end Site

namespace CheckSpec

open Site

/-- Asks for the file beside the root. -/
def upward : CheckSpec := .requiredPaths ⟨["../outside.txt"]⟩

/-- Asks for what may stand below the root. -/
def downward : CheckSpec := .requiredPaths ⟨["docs/", "README.md"]⟩

/-- Asks for the root, from above. -/
def roundabout : CheckSpec := .requiredPaths ⟨["../sub/"]⟩

theorem reachesOut_upward : upward.ReachesOut accompanied := by
  have usable : FileSystem.IsUsable (accompanied.locate "../outside.txt") := by decide
  have there : accompanied.existsAt "../outside.txt" = true := by
    rw [existsAt, FileSystem.pathExists, FileSystem.node?, FileSystem.locate_of_isUsable usable]
    decide
  have out : ¬ accompanied.StaysWithin "../outside.txt" := by decide
  exact ⟨hasRoot_accompanied, .anything, "../outside.txt", List.mem_singleton.mpr rfl, there, out⟩

theorem not_reachesOut_roundabout : ¬ roundabout.ReachesOut accompanied := by
  rintro ⟨_, sought, path, member, _, out⟩
  cases List.mem_singleton.mp member
  exact out (by decide)

/-- Paths below the root and the way round above it lead nowhere else; the file beside the root is outside. -/
theorem run_confined_accompanied :
    downward.run accompanied = downward.run alone ∧ roundabout.run accompanied = roundabout.run alone ∧
    ∃ other : Site, other.WellFormed ∧ accompanied.Agrees other ∧ upward.run accompanied ≠ upward.run other := by
  have formed := wellFormed_accompanied
  have agree : accompanied.Agrees alone := stripped_accompanied ▸ agrees_stripped
  have formed' : alone.WellFormed := stripped_accompanied ▸ formed.stripped
  refine ⟨?_, ?_, ?_⟩
  · have plain : downward.IsPlain := by
      rw [downward, IsPlain]
      decide
    exact (run_confined downward).1 plain accompanied alone formed formed' agree
  · have confined : ¬ roundabout.ReachesOut alone := stripped_accompanied ▸ not_reachesOut_stripped
    exact ((run_confined roundabout).2 accompanied formed).mpr not_reachesOut_roundabout alone formed' agree confined
  · by_contra same
    refine ((run_confined upward).2 accompanied formed).mp (fun other formed' agree _ => ?_) reachesOut_upward
    by_contra different
    exact same ⟨other, formed', agree, different⟩

/-- A required path with two dots tells sites apart that agree at the root and below. -/
theorem upward_path_leaves_root :
    ¬ ∀ (check : CheckSpec) (a b : Site), a.WellFormed → b.WellFormed → a.Agrees b → check.run a = check.run b := by
  intro confined
  have formed := wellFormed_accompanied
  have same := confined upward accompanied accompanied.stripped formed formed.stripped agrees_stripped
  exact run_stripped_ne_of_reachesOut formed reachesOut_upward same

end CheckSpec

end Plumbline
