import Plumbline.Proofs.Agreement
import Plumbline.Proofs.Check.Totality

namespace Plumbline

theorem mapM_congr {ε α β : Type} {f g : α → Except ε β} {xs : List α} (same : ∀ a ∈ xs, f a = g a) :
    xs.mapM f = xs.mapM g := by
  induction xs with
  | nil => rfl
  | cons a xs ih =>
    obtain ⟨here, same⟩ := List.forall_mem_cons.mp same
    rw [List.mapM_cons, List.mapM_cons, here, ih same]

namespace Check

/-- What a check wants to find at a path. -/
inductive Sought where
  | anything
  | file
  | directory

def Sought.isAt (sought : Sought) (site : Site) (path : String) : Bool :=
  match sought with
  | .anything => site.existsAt path
  | .file => site.isFileAt path
  | .directory => site.isDirectoryAt path

def Sought.accepts (node : Node) : Sought → Bool
  | .anything => true
  | .file => node.isFile
  | .directory => node.isDirectory

theorem Sought.isAt_iff {sought : Sought} {site : Site} {path : String} :
    sought.isAt site path = true ↔
      ∃ node, site.files.node? (site.locate path) = some node ∧ sought.accepts node = true := by
  cases sought with
  | anything =>
    rw [isAt, Site.existsAt, FileSystem.pathExists, Option.isSome_iff_exists]
    exact exists_congr fun _ => (and_iff_left rfl).symm
  | file => exact Option.any_eq_true _ _
  | directory => exact Option.any_eq_true _ _

theorem Sought.accepts_congr {node node' : Node} (same : node'.isDirectory = node.isDirectory) (sought : Sought) :
    sought.accepts node' = sought.accepts node := by
  cases sought with
  | anything => rfl
  | file => rw [accepts, accepts, Node.isFile, Node.isFile, same]
  | directory => exact same

/-- What a check reports unless it is met: that something is missing at a path, or a package from the whole tree. -/
inductive Demand where
  | stands (sought : Sought) (path : String)
  | package

def Demand.isMet (site : Site) : Demand → Bool
  | .stands sought path => sought.isAt site path
  | .package => false

/-- The demands that a number of them leaves unmet. -/
def unmet (site : Site) (demands : List Demand) : Nat := demands.countP fun demand => !demand.isMet site

def RequiredPaths.demand (path : String) : Demand :=
  if path.toList.getLast? = some '/' then .stands .directory (String.ofList path.toList.dropLast)
  else .stands .anything path

/-- The demands on an application: those inside its package, or others where it has none. -/
def packageDemands (site : Site) (app : String) (absent : List Demand) (inside : List String → List Demand) :
    List Demand :=
  match packageDirectories site app with
  | .ok (names :: _) => inside names
  | .ok [] => absent
  | .error _ => []

def AppStructure.inside (check : AppStructure) (names : List String) : List Demand :=
  check.requiredFiles.map (fun file => .stands .anything (Path.join (Path.ofSteps names) file)) ++
    if check.requireTestsDir then [.stands .directory (Path.join (Path.ofSteps names) "tests")] else []

/-- Files are looked for only in a directory that is there. -/
def TestLayout.inside (check : TestLayout) (site : Site) (names : List String) : List Demand :=
  let tests := Path.join (Path.ofSteps names) "tests"
  .stands .directory tests ::
    if site.isDirectoryAt tests then
      ("__init__.py" :: check.requiredFiles).map fun file => .stands .file (Path.join tests file)
    else []

end Check

open Check

/-- The demands by which a check probes single paths. The other kinds only look at what a walk finds and at fixed paths
below the root. -/
def CheckSpec.demands : CheckSpec → Site → List Demand
  | requiredPaths check, _ => check.paths.map RequiredPaths.demand
  | appStructure check, site => check.apps.flatMap fun app => packageDemands site app [.package] check.inside
  | testLayout check, site => check.apps.flatMap fun app => packageDemands site app [] (check.inside site)
  | _, _ => []

namespace Check

variable {site : Site}

theorem length_filterMap_eq_unmet {α : Type} {issue? : α → Option Issue} {demand : α → Demand}
    (reports : ∀ a, (issue? a).isSome = !(demand a).isMet site) (items : List α) :
    (items.filterMap issue?).length = unmet site (items.map demand) := by
  rw [List.length_filterMap_eq_countP, unmet, List.countP_map]
  exact List.countP_congr fun a _ => by rw [reports]; rfl

theorem unmet_append (first second : List Demand) :
    unmet site (first ++ second) = unmet site first + unmet site second := List.countP_append

theorem RequiredPaths.isSome_issue? (path : String) : (issue? site path).isSome = !(demand path).isMet site := by
  rw [issue?, demand]
  split
  · rw [Demand.isMet, Sought.isAt]
    cases site.isDirectoryAt _ <;> rfl
  · rw [Demand.isMet, Sought.isAt]
    cases site.existsAt path <;> rfl

section Lengths

variable (rooted : site.hasRoot = true)

include rooted

/-- A check for paths reports each that is missing, once. -/
theorem RequiredPaths.length_run (check : RequiredPaths) :
    ∃ issues, check.run site = .ok issues ∧ issues.length = unmet site (check.paths.map demand) := by
  have unhindered : failure? site.walk = none := by
    rw [site.failure?_walk, Site.obstacle?_of_hasRoot rooted]
    rfl
  obtain ⟨passed, walked⟩ := failure?_eq_none_iff.mp unhindered
  refine ⟨check.paths.filterMap (issue? site), ?_, length_filterMap_eq_unmet isSome_issue? _⟩
  rw [run, walked]
  rfl

omit rooted in
theorem length_of_apps {issuesOf : String → Except CheckError (List Issue)} {demandsOf : String → List Demand}
    (each : ∀ app, ∃ issues, issuesOf app = .ok issues ∧ issues.length = unmet site (demandsOf app))
    (apps : List String) :
    ∃ issues, (do return (← apps.mapM issuesOf).flatten) = Except.ok issues ∧
      issues.length = unmet site (apps.flatMap demandsOf) := by
  suffices mapped : ∃ found, apps.mapM issuesOf = .ok found ∧
      found.flatten.length = unmet site (apps.flatMap demandsOf) by
    obtain ⟨found, mapped, total⟩ := mapped
    refine ⟨found.flatten, ?_, total⟩
    rw [mapped]
    rfl
  induction apps with
  | nil => exact ⟨[], rfl, rfl⟩
  | cons app apps ih =>
    obtain ⟨issues, here, length⟩ := each app
    obtain ⟨found, later, total⟩ := ih
    refine ⟨issues :: found, ?_, ?_⟩
    · rw [List.mapM_cons, here, later]
      rfl
    · rw [List.flatten_cons, List.length_append, List.flatMap_cons, unmet_append, length, total]

theorem exists_packageDirectories (app : String) : ∃ packages, packageDirectories site app = .ok packages := by
  rw [← failure?_eq_none_iff, failure?_packageDirectories, Site.obstacle?_of_hasRoot rooted]
  rfl

theorem AppStructure.length_issuesOf (check : AppStructure) (app : String) :
    ∃ issues, check.issuesOf site app = .ok issues ∧
      issues.length = unmet site (packageDemands site app [.package] check.inside) := by
  obtain ⟨packages, found⟩ := exists_packageDirectories rooted app
  rw [issuesOf, packageDemands, found]
  cases packages with
  | nil => exact ⟨_, rfl, rfl⟩
  | cons names rest =>
    refine ⟨_, rfl, ?_⟩
    dsimp only
    rw [List.length_append, inside, unmet_append]
    refine congrArg₂ (· + ·) ?_ ?_
    · refine length_filterMap_eq_unmet (fun file => ?_) _
      rw [Demand.isMet, Sought.isAt]
      cases site.existsAt _ <;> rfl
    · cases check.requireTestsDir with
      | false => rfl
      | true =>
        rw [if_pos rfl, unmet, List.countP_singleton, Demand.isMet, Sought.isAt]
        cases site.isDirectoryAt _ <;> rfl

theorem TestLayout.length_issuesOf (check : TestLayout) (app : String) :
    ∃ issues, check.issuesOf site app = .ok issues ∧
      issues.length = unmet site (packageDemands site app [] (check.inside site)) := by
  obtain ⟨packages, found⟩ := exists_packageDirectories rooted app
  rw [issuesOf, packageDemands, found]
  cases packages with
  | nil => exact ⟨_, rfl, rfl⟩
  | cons names rest =>
    dsimp only [bind, Except.bind, inside]
    by_cases there : site.isDirectoryAt (Path.join (Path.ofSteps names) "tests") = true
    · rw [there]
      refine ⟨_, rfl, ?_⟩
      rw [if_pos rfl, unmet, List.countP_cons_of_neg (by simp [Demand.isMet, Sought.isAt, there])]
      refine length_filterMap_eq_unmet (fun file => ?_) _
      rw [Demand.isMet, Sought.isAt]
      cases site.isFileAt _ <;> rfl
    · have missing := Bool.eq_false_iff.mpr there
      rw [missing]
      refine ⟨_, rfl, ?_⟩
      rw [if_neg Bool.false_ne_true, unmet, List.countP_singleton, Demand.isMet, Sought.isAt, missing]
      rfl

end Lengths

section Congruence

variable {a b : Site}

/-- Demands that one site meets only where another does, and as many of them, are met alike. -/
theorem isMet_of_unmet_eq {demands : List Demand}
    (fewer : ∀ demand : Demand, demand.isMet b = true → demand.isMet a = true)
    (same : unmet a demands = unmet b demands) {demand : Demand} (member : demand ∈ demands)
    (met : demand.isMet a = true) : demand.isMet b = true := by
  have sub : (demands.filter fun demand => !demand.isMet a).Sublist (demands.filter fun demand => !demand.isMet b) := by
    refine List.monotone_filter_right _ fun demand missing => ?_
    cases here : demand.isMet b with
    | false => rfl
    | true => rw [fewer demand here] at missing; cases missing
  rw [unmet, unmet, List.countP_eq_length_filter, List.countP_eq_length_filter] at same
  have alike := sub.eq_of_length same
  by_contra gone
  have missing : demand ∈ demands.filter fun demand => !demand.isMet b :=
    List.mem_filter.mpr ⟨member, by rw [Bool.eq_false_iff.mpr gone]; rfl⟩
  rw [← alike, List.mem_filter, met] at missing
  cases missing.2

theorem RequiredPaths.issue?_congr {path : String} (same : (demand path).isMet a = (demand path).isMet b) :
    issue? a path = issue? b path := by
  rw [issue?, issue?]
  rw [demand] at same
  split at same
  · rename_i slashed
    rw [Demand.isMet, Demand.isMet, Sought.isAt, Sought.isAt] at same
    rw [if_pos slashed, if_pos slashed, same]
  · rename_i slashless
    rw [Demand.isMet, Demand.isMet, Sought.isAt, Sought.isAt] at same
    rw [if_neg slashless, if_neg slashless, same]

variable {app : String} (packages : packageDirectories a app = packageDirectories b app)
  (shown : ∀ path, a.shown path = b.shown path)

include packages shown

theorem AppStructure.issuesOf_congr {check : AppStructure}
    (same : ∀ demand ∈ packageDemands a app [.package] check.inside, demand.isMet a = demand.isMet b) :
    check.issuesOf a app = check.issuesOf b app := by
  rw [packageDemands] at same
  rw [issuesOf, issuesOf, ← packages]
  cases found : packageDirectories a app with
  | error e => rfl
  | ok packages =>
    cases packages with
    | nil => rfl
    | cons names rest =>
      rw [found] at same
      obtain ⟨files, tests⟩ := List.forall_mem_append.mp same
      dsimp only [bind, Except.bind]
      refine congrArg Except.ok (congrArg₂ (· ++ ·) ?_ ?_)
      · refine List.filterMap_congr fun file member => ?_
        have there : a.existsAt (Path.join (Path.ofSteps names) file) =
            b.existsAt (Path.join (Path.ofSteps names) file) := files _ (List.mem_map_of_mem member)
        rw [there, shown]
      · cases wanted : check.requireTestsDir with
        | false => rfl
        | true =>
          rw [if_pos wanted] at tests
          have same : a.isDirectoryAt (Path.join (Path.ofSteps names) "tests") =
            b.isDirectoryAt (Path.join (Path.ofSteps names) "tests") := tests _ (List.mem_singleton.mpr rfl)
          rw [same, shown]

theorem TestLayout.issuesOf_congr {check : TestLayout}
    (same : ∀ demand ∈ packageDemands a app [] (check.inside a), demand.isMet a = demand.isMet b) :
    check.issuesOf a app = check.issuesOf b app := by
  rw [packageDemands] at same
  rw [issuesOf, issuesOf, ← packages]
  cases found : packageDirectories a app with
  | error e => rfl
  | ok packages =>
    cases packages with
    | nil => rfl
    | cons names rest =>
      rw [found] at same
      obtain ⟨tests, files⟩ := List.forall_mem_cons.mp same
      have tests' : a.isDirectoryAt (Path.join (Path.ofSteps names) "tests") =
        b.isDirectoryAt (Path.join (Path.ofSteps names) "tests") := tests
      dsimp only [bind, Except.bind]
      rw [← tests', shown]
      split
      · rfl
      · rename_i there
        rw [if_pos (by simpa using there)] at files
        refine congrArg Except.ok (List.filterMap_congr fun file member => ?_)
        have isFile : a.isFileAt (Path.join (Path.join (Path.ofSteps names) "tests") file) =
            b.isFileAt (Path.join (Path.join (Path.ofSteps names) "tests") file) :=
          files _ (List.mem_map_of_mem member)
        rw [isFile, shown]

end Congruence

end Check

namespace CheckSpec

/-- A check that probes single paths has one issue for each demand that is not met. -/
theorem length_run {check : CheckSpec} {site : Site} (rooted : site.hasRoot = true) {demand : Demand}
    (member : demand ∈ check.demands site) :
    ∃ issues, check.run site = .ok issues ∧ issues.length = unmet site (check.demands site) := by
  cases check with
  | requiredPaths check => exact check.length_run rooted
  | appStructure check => exact length_of_apps (check.length_issuesOf rooted) check.apps
  | testLayout check => exact length_of_apps (check.length_issuesOf rooted) check.apps
  | _ => cases member

end CheckSpec

end Plumbline
