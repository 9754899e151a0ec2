import Plumbline.Proofs.Check.Obstacle
import Plumbline.Proofs.Files.Pruned
import Plumbline.Proofs.Files.Resolution

namespace Plumbline.Site

/-- Two sites with one root path that hold the same at the root and below, whatever stands elsewhere. -/
structure Agrees (a b : Site) : Prop where
  root : a.root = b.root
  working : a.files.working = b.files.working
  below : ∀ place, ((a.files.node? a.root).bind (Node.find? place)).map Node.kind =
    ((b.files.node? b.root).bind (Node.find? place)).map Node.kind

def WellFormed (site : Site) : Prop := site.files.top.WellFormed

/-- Where the root is, if it is anywhere. -/
def place (site : Site) : List String := Path.follow (site.files.origin site.root) site.root

/-- The places that the path of the root leads through. -/
def way (site : Site) : List (List String) := Path.places (site.files.origin site.root) (Path.pieces site.root)

/-- A place below the root, or one that every file system with this root has: on the way to the root, or above that. -/
def IsWithin (site : Site) (visited : List String) : Prop :=
  site.place <+: visited ∨ ∃ passed ∈ site.way, visited <+: passed

instance (site : Site) (visited : List String) : Decidable (site.IsWithin visited) :=
  inferInstanceAs (Decidable (_ ∨ _))

/-- The places that a path as seen from the root leads through. -/
def route (site : Site) (path : String) : List (List String) :=
  Path.places (site.files.origin (site.locate path)) (Path.pieces (site.locate path))

def StaysWithin (site : Site) (path : String) : Prop := ∀ visited ∈ site.route path, site.IsWithin visited

instance (site : Site) (path : String) : Decidable (site.StaysWithin path) :=
  inferInstanceAs (Decidable (∀ visited ∈ _, _))

section One

variable {site : Site}

theorem place_mem_way : site.place ∈ site.way := Path.foldl_turn_mem_places _

theorem isWithin_of_above {lead visited : List String} (within : site.IsWithin visited) (before : lead <+: visited) :
    site.IsWithin lead := by
  rcases within with below | ⟨passed, member, above⟩
  · rcases List.prefix_or_prefix_of_prefix below before with deeper | higher
    · exact Or.inl deeper
    · exact Or.inr ⟨site.place, place_mem_way, higher⟩
  · exact Or.inr ⟨passed, member, before.trans above⟩

theorem isWithin_of_mem_way {passed : List String} (member : passed ∈ site.way) : site.IsWithin passed :=
  Or.inr ⟨passed, member, List.prefix_rfl⟩

variable (rooted : site.hasRoot = true)

include rooted in
theorem locate_root : site.files.locate site.root = .ok site.place ∧ site.files.DirectoryAt site.place := by
  rw [hasRoot, FileSystem.isDirectory, Option.any_eq_true] at rooted
  obtain ⟨node, found, directory⟩ := rooted
  obtain ⟨place, led, there⟩ := FileSystem.node?_eq_some_iff.mp found
  have same : place = site.place := FileSystem.eq_follow_of_locate led
  cases node with
  | file text => cases directory
  | directory entries =>
    rw [← same]
    exact ⟨led, entries, there⟩

include rooted in
theorem directoryAt_of_mem_way {passed : List String} (member : passed ∈ site.way) : site.files.DirectoryAt passed := by
  obtain ⟨led, directory⟩ := locate_root rooted
  rcases FileSystem.directoryAt_of_mem_places (FileSystem.locate_eq_ok_iff.mp led).2 member with rfl | passed
  · exact directory
  · exact passed

include rooted in
theorem node?_root : site.files.node? site.root = site.files.top.find? site.place := by
  rw [FileSystem.node?, (locate_root rooted).1]

/-- The route of a relative path comes to the root by the way of the root, and then follows the path. -/
theorem exists_route {path : String} (named : site.root ≠ "") (relative : Path.isAbsolute path = false) :
    ∃ lead, Path.pieces (site.locate path) = lead ++ Path.pieces path ∧
      site.files.origin (site.locate path) = site.files.origin site.root ∧
      lead.foldl Path.turn (site.files.origin site.root) = site.place ∧
      ∀ visited ∈ Path.places (site.files.origin site.root) lead, visited ∈ site.way := by
  obtain ⟨lead, behind, cut, start⟩ := Path.pieces_join named relative
  refine ⟨lead, behind, ?_, ?_, fun visited member => ?_⟩
  · rw [FileSystem.origin, FileSystem.origin, Site.locate, start]
  · rw [Site.place, Path.follow]
    rcases cut with same | same <;> rw [same]
    · rfl
    · rw [List.foldl_append]
      rfl
  · rw [way]
    rcases cut with same | same <;> rw [same]
    · exact member
    · exact Path.mem_places_append.mpr (Or.inl member)

include rooted in
theorem root_ne_empty : site.root ≠ "" := by
  exact (FileSystem.locate_eq_ok_iff.mp (locate_root rooted).1).1.2.1

include rooted in
theorem staysWithin_of_isPlain {path : String} (plain : Path.IsPlain path) : site.StaysWithin path := by
  obtain ⟨lead, behind, start, arrived, inWay⟩ := exists_route (root_ne_empty rooted) plain.1
  intro visited member
  rw [route, behind, start, Path.mem_places_append, arrived] at member
  rcases member with early | later
  · exact isWithin_of_mem_way (inWay visited early)
  · exact Or.inl (Path.prefix_of_mem_places plain.2 later)

include rooted in
/-- A relative path leads where its pieces turn to from the root. -/
theorem eq_foldl_turn_of_locate {path : String} (relative : Path.isAbsolute path = false) {place : List String}
    (led : site.files.locate (site.locate path) = .ok place) :
    place = (Path.pieces path).foldl Path.turn site.place := by
  obtain ⟨lead, behind, start, arrived, _⟩ := exists_route (root_ne_empty rooted) relative
  calc place
      = (Path.pieces (site.locate path)).foldl Path.turn (site.files.origin (site.locate path)) :=
        FileSystem.eq_follow_of_locate led
    _ = (Path.pieces path).foldl Path.turn site.place := by rw [behind, start, List.foldl_append, arrived]

include rooted in
theorem place_prefix_of_isPlain {path : String} (plain : Path.IsPlain path) {place : List String}
    (led : site.files.locate (site.locate path) = .ok place) : site.place <+: place := by
  rw [eq_foldl_turn_of_locate rooted plain.1 led]
  exact Path.prefix_of_mem_places plain.2 (Path.foldl_turn_mem_places _)

end One

/-- Which directories open is up to the root alone. -/
theorem opens_eq_of_root_eq {a b : Site} (root : a.root = b.root) : a.opens = b.opens := by
  funext names
  rw [opens, opens, root]

namespace Agrees

variable {a b : Site}

theorem symm (agree : a.Agrees b) : b.Agrees a :=
  ⟨agree.root.symm, agree.working.symm, fun place => (agree.below place).symm⟩

theorem origin (agree : a.Agrees b) (path : String) : a.files.origin path = b.files.origin path := by
  rw [FileSystem.origin, FileSystem.origin, agree.working]

theorem place (agree : a.Agrees b) : a.place = b.place := by
  rw [Site.place, Site.place, agree.root, agree.origin]

theorem way (agree : a.Agrees b) : a.way = b.way := by
  rw [Site.way, Site.way, agree.root, agree.origin]

theorem locate (agree : a.Agrees b) (path : String) : a.locate path = b.locate path := by
  rw [Site.locate, Site.locate, agree.root]

theorem isWithin_iff (agree : a.Agrees b) {visited : List String} : a.IsWithin visited ↔ b.IsWithin visited := by
  rw [IsWithin, IsWithin, agree.place, agree.way]

theorem staysWithin_iff (agree : a.Agrees b) {path : String} : a.StaysWithin path ↔ b.StaysWithin path := by
  simp only [StaysWithin, route, agree.locate, agree.origin, agree.isWithin_iff]

theorem hasRoot (agree : a.Agrees b) : a.hasRoot = b.hasRoot := by
  have same := agree.below []
  rw [Site.hasRoot, Site.hasRoot, FileSystem.isDirectory, FileSystem.isDirectory]
  revert same
  rcases a.files.node? a.root with _ | _ | _ <;> rcases b.files.node? b.root with _ | _ | _ <;>
    simp [Node.find?, Node.kind, Node.isDirectory]

section Rooted

variable (agree : a.Agrees b) (formed : a.WellFormed) (formed' : b.WellFormed)

include agree formed formed' in
/-- What agrees path by path is the same. -/
theorem node?_root : a.files.node? a.root = b.files.node? b.root := by
  have same := agree.below
  cases found : a.files.node? a.root with
  | none =>
    cases found' : b.files.node? b.root with
    | none => rfl
    | some node' =>
      rw [found, found'] at same
      cases same []
  | some node =>
    cases found' : b.files.node? b.root with
    | none =>
      rw [found, found'] at same
      cases same []
    | some node' =>
      rw [found, found'] at same
      obtain ⟨_, _, there⟩ := FileSystem.node?_eq_some_iff.mp found
      obtain ⟨_, _, there'⟩ := FileSystem.node?_eq_some_iff.mp found'
      exact congrArg some (Node.eq_of_same_kinds (formed.find? there) (formed'.find? there') same)

variable (rooted : a.hasRoot = true)

include agree formed formed' rooted in
theorem find?_of_below {visited : List String} (below : a.place <+: visited) :
    a.files.top.find? visited = b.files.top.find? visited := by
  obtain ⟨rest, rfl⟩ := below
  have rooted' : b.hasRoot = true := agree.hasRoot ▸ rooted
  rw [Node.find?_append, ← Site.node?_root rooted, agree.node?_root formed formed', Site.node?_root rooted',
    ← Node.find?_append, agree.place]

include agree formed formed' rooted in
theorem find?_of_isWithin {visited : List String} (within : a.IsWithin visited) {node : Node}
    (found : a.files.top.find? visited = some node) :
    ∃ node', b.files.top.find? visited = some node' ∧ node'.isDirectory = node.isDirectory := by
  rcases within with below | ⟨passed, member, above⟩
  · exact ⟨node, (agree.find?_of_below formed formed' rooted below).symm.trans found, rfl⟩
  · have rooted' : b.hasRoot = true := agree.hasRoot ▸ rooted
    obtain ⟨entries, here⟩ := FileSystem.directoryAt_of_above above (directoryAt_of_mem_way rooted member)
    obtain ⟨entries', there⟩ :=
      FileSystem.directoryAt_of_above above (directoryAt_of_mem_way rooted' (agree.way ▸ member))
    cases Option.some.inj (found.symm.trans here)
    exact ⟨_, there, rfl⟩

include agree formed formed' rooted in
/-- A path that never leaves what the sites have in common leads to one place on both. -/
theorem locate_of_staysWithin {path : String} (stays : a.StaysWithin path) {place : List String}
    (led : a.files.locate (a.locate path) = .ok place) : b.files.locate (b.locate path) = .ok place := by
  obtain ⟨usable, led⟩ := FileSystem.locate_eq_ok_iff.mp led
  rw [← agree.locate, FileSystem.locate_eq_ok_iff, ← agree.origin]
  exact ⟨usable, FileSystem.foldlM_step_transfer
    (fun visited member node found => agree.find?_of_isWithin formed formed' rooted (stays visited member) found) led⟩

include agree formed formed' rooted in
theorem node?_of_staysWithin {path : String} (stays : a.StaysWithin path) {node : Node}
    (found : a.files.node? (a.locate path) = some node) :
    ∃ node', b.files.node? (b.locate path) = some node' ∧ node'.isDirectory = node.isDirectory := by
  obtain ⟨place, led, there⟩ := FileSystem.node?_eq_some_iff.mp found
  have led' := agree.locate_of_staysWithin formed formed' rooted stays led
  have last : place ∈ a.route path := FileSystem.eq_follow_of_locate led ▸ Path.foldl_turn_mem_places _
  obtain ⟨node', there', same⟩ := agree.find?_of_isWithin formed formed' rooted (stays place last) there
  exact ⟨node', FileSystem.node?_eq_some_iff.mpr ⟨place, led', there'⟩, same⟩

include agree formed formed' rooted in
/-- A path that only leads down from the root leads to one thing on both sites. -/
theorem node?_of_isPlain {path : String} (plain : Path.IsPlain path) :
    a.files.node? (a.locate path) = b.files.node? (b.locate path) := by
  have rooted' : b.hasRoot = true := agree.hasRoot ▸ rooted
  have stays := staysWithin_of_isPlain rooted plain
  ext node
  simp only [FileSystem.node?_eq_some_iff]
  constructor
  · rintro ⟨place, led, there⟩
    have below := place_prefix_of_isPlain rooted plain led
    rw [agree.find?_of_below formed formed' rooted below] at there
    exact ⟨place, agree.locate_of_staysWithin formed formed' rooted stays led, there⟩
  · rintro ⟨place, led, there⟩
    have below := place_prefix_of_isPlain rooted' plain led
    rw [← agree.place] at below
    rw [← agree.find?_of_below formed formed' rooted below] at there
    exact ⟨place, agree.symm.locate_of_staysWithin formed' formed rooted' (agree.staysWithin_iff.mp stays) led, there⟩

end Rooted

section Walks

variable (agree : a.Agrees b) (formed : a.WellFormed) (formed' : b.WellFormed)

include agree formed formed'

theorem walk : a.walk = b.walk := by
  rw [Site.walk, Site.walk, agree.node?_root formed formed', agree.root, opens_eq_of_root_eq agree.root]

theorem walkFiles : a.walkFiles = b.walkFiles := by
  rw [Site.walkFiles, Site.walkFiles, agree.walk formed formed']

theorem walkDirectories : a.walkDirectories = b.walkDirectories := by
  rw [Site.walkDirectories, Site.walkDirectories, agree.walk formed formed']

theorem filesMatching (patterns : List String) : a.filesMatching patterns = b.filesMatching patterns := by
  rw [Site.filesMatching, Site.filesMatching, agree.walkFiles formed formed']

theorem findFile? (pattern : String) : a.findFile? pattern = b.findFile? pattern := by
  rw [Site.findFile?, Site.findFile?, agree.filesMatching formed formed']

theorem textsMatching (patterns : List String) : a.textsMatching patterns = b.textsMatching patterns := by
  rw [Site.textsMatching, Site.textsMatching, agree.filesMatching formed formed']

end Walks

theorem shown (agree : a.Agrees b) (path : String) : a.shown path = b.shown path := by
  rw [Site.shown, Site.shown, agree.locate, agree.root]

theorem parentName? (agree : a.Agrees b) (names : List String) : a.parentName? names = b.parentName? names := by
  rw [Site.parentName?, Site.parentName?, agree.root]

end Agrees

end Plumbline.Site
