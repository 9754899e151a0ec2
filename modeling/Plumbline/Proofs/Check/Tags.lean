import Plumbline.Proofs.Check.Versions
import Plumbline.Proofs.Text.Infix
import Plumbline.Proofs.Walks

namespace Plumbline

namespace Node

/-- What holds one file and nothing else, at the end of a path of names. -/
def lone : List String → Option String → Node
  | [], text => .file text
  | name :: path, text => .directory [(name, lone path text)]

theorem find?_lone_eq_some_iff {path place : List String} {text : Option String} {node : Node} :
    (lone path text).find? place = some node ↔ ∃ rest, path = place ++ rest ∧ node = lone rest text := by
  induction place generalizing path with
  | nil =>
    simp only [find?, List.nil_append, Option.some.injEq]
    constructor
    · rintro rfl
      exact ⟨path, rfl, rfl⟩
    · rintro ⟨_, rfl, rfl⟩
      rfl
  | cons name place ih =>
    cases path with
    | nil => simp [lone, find?, child?]
    | cons step path =>
      rw [lone, find?, child?, NameMap.lookup_cons_eq]
      by_cases same : name = step
      · subst same
        rw [if_pos rfl, Option.bind_some, ih]
        simp only [List.cons_append, List.cons.injEq, true_and]
      · rw [if_neg same]
        simp [Ne.symm same]

theorem wellFormed_singleton {name : String} {node : Node} (proper : IsName name) (formed : node.WellFormed) :
    (directory [(name, node)]).WellFormed :=
  .directory (List.pairwise_singleton ..) (List.forall_mem_singleton.mpr proper) (List.forall_mem_singleton.mpr formed)

theorem wellFormed_lone {path : List String} {text : Option String} (named : ∀ name ∈ path, IsName name) :
    (lone path text).WellFormed := by
  induction path with
  | nil => exact .file text
  | cons name path ih =>
    obtain ⟨here, named⟩ := List.forall_mem_cons.mp named
    exact wellFormed_singleton here (ih named)

end Node

namespace Check

open Site
open Text

/-- A line of the file that lists packed references: a remark, the commit that the tag before it leads to, or a reference
with its name. -/
inductive PackedLine where
  | remark (text : List Char)
  | peeled (id : List Char) (solid : ' ' ∉ id)
  | ref (id name : List Char) (solid : ' ' ∉ id) (named : ' ' ∉ name)

namespace PackedLine

def chars : PackedLine → List Char
  | remark text => '#' :: text
  | peeled id _ => '^' :: id
  | ref id name _ _ => id ++ ' ' :: name

/-- The tag that a line stands for. -/
def tag? : PackedLine → Option String
  | ref _ name _ _ => (after? "refs/tags/".toList name).map String.ofList
  | _ => none

/-- The text in a remark that stands where the name of a tag stands in a reference. -/
def mention? : PackedLine → Option String
  | remark text => packedTag? ('#' :: text)
  | _ => none

/-- The name of a tag is found behind its reference, and nothing is found where only a commit stands. -/
theorem packedTag?_chars_eq_some_iff (row : PackedLine) {tag : String} :
    packedTag? row.chars = some tag ↔ row.tag? = some tag ∨ row.mention? = some tag := by
  have spaced : " refs/tags/".toList = ' ' :: "refs/tags/".toList := rfl
  cases row with
  | remark text => simp [chars, tag?, mention?]
  | peeled id solid =>
    have absent : ¬ " refs/tags/".toList <:+: '^' :: id := by
      intro inside
      have space : ' ' ∈ '^' :: id := inside.subset (spaced ▸ List.mem_cons_self)
      simp [solid] at space
    rw [packedTag?, chars, cut?_eq_none_iff.mpr absent]
    simp [tag?, mention?]
  | ref id name solid named =>
    have either : packedTag? (ref id name solid named).chars = (ref id name solid named).tag? := by
      rw [packedTag?, chars, tag?, spaced]
      cases begins : after? "refs/tags/".toList name with
      | some tag =>
        have whole : id ++ ' ' :: name = id ++ (' ' :: "refs/tags/".toList ++ tag) := by
          rw [after?_eq_some_iff.mp begins, List.cons_append]
        rw [whole, cut?_of_head_not_mem tag solid]
        rfl
      | none =>
        have absent : ¬ ' ' :: "refs/tags/".toList <:+: id ++ ' ' :: name := by
          rintro ⟨before, tag, whole⟩
          rw [List.append_assoc, List.cons_append, eq_comm, List.append_cons_inj_of_notMem solid named] at whole
          exact after?_eq_none_iff.mp begins ⟨tag, whole.2.2.symm⟩
        rw [cut?_eq_none_iff.mpr absent]
        rfl
    simp [either, mention?]

end PackedLine

/-- Whether something stands under a name among the tags that are files. -/
def StandsLoose (site : Site) (name : String) (node : Node) : Prop :=
  ∃ tags, site.files.node? (site.locate ".git/refs/tags") = some tags ∧ tags.find? [name] = some node

/-- Whether a tag is stored in a file of its own. A slash in its name divides a directory from what is in it. -/
def IsLooseTag (site : Site) (name : String) : Prop :=
  ∃ tags text, site.files.node? (site.locate ".git/refs/tags") = some tags ∧
    tags.find? (Path.pieces name) = some (.file text)

/-- What a site stores tags in: files of their own, and a file of packed references with the lines that it should have. -/
structure TagStore (site : Site) where
  rows : List PackedLine
  formed : site.WellFormed
  packed : (∃ text, site.files.read (site.locate ".git/packed-refs") = .ok text ∧
      lines text.toList = rows.map PackedLine.chars) ∨
    rows = [] ∧ ∀ text, site.files.read (site.locate ".git/packed-refs") ≠ .ok text

namespace TagStore

variable {site : Site} (store : TagStore site)

/-- Whether a tag of this name is stored, loose or packed or both. -/
def IsTag (name : String) : Prop := IsLooseTag site name ∨ ∃ row ∈ store.rows, row.tag? = some name

/-- Whether a name stands where those of tags do, without a tag: that of a directory without a file in it, or one in a
remark. -/
def Strays (name : String) : Prop :=
  (∃ node, StandsLoose site name node ∧ ∀ path text, node.find? path ≠ some (.file text)) ∨
    ∃ row ∈ store.rows, row.mention? = some name

/-- Whether no tag takes the place of a directory on the way to another one, as is the rule for names of references. -/
def Separate : Prop :=
  ∀ name other, store.IsTag name → store.IsTag other → Path.pieces name <+: Path.pieces other → name = other

theorem mem_packedTags_iff {tag : String} :
    tag ∈ packedTags site ↔ ∃ row ∈ store.rows, row.tag? = some tag ∨ row.mention? = some tag := by
  simp only [← PackedLine.packedTag?_chars_eq_some_iff]
  rw [packedTags]
  rcases store.packed with ⟨text, read, rows⟩ | ⟨none, unread⟩
  · rw [read]
    simp [rows]
  · rw [none]
    cases read : site.files.read (site.locate ".git/packed-refs") with
    | ok text => exact absurd read (unread text)
    | error e => simp

end TagStore

section Loose

variable {site : Site}

theorem mem_looseTags_iff {tag : String} : tag ∈ looseTags site ↔ ∃ node, StandsLoose site tag node := by
  rw [looseTags]
  split
  · rename_i entries found
    rw [Node.mem_names_iff]
    constructor
    · rintro ⟨node, there⟩
      exact ⟨node, _, found, there⟩
    · rintro ⟨node, tags, found', there⟩
      obtain rfl := Option.some.inj (found.symm.trans found')
      exact ⟨node, there⟩
  · rename_i other
    refine iff_of_false List.not_mem_nil ?_
    rintro ⟨node, tags, found, there⟩
    obtain ⟨entries, _, rfl, _⟩ := Node.find?_cons_eq_some.mp there
    exact other entries found

/-- A file stands under a name just when it is a tag, or lies in a directory on the way to it. -/
theorem exists_isLooseTag_iff (formed : site.WellFormed) {first : String} :
    (∃ name, IsLooseTag site name ∧ (Path.pieces name).head? = some first) ↔
      ∃ node path text, StandsLoose site first node ∧ node.find? path = some (.file text) := by
  constructor
  · rintro ⟨name, ⟨tags, text, found, leads⟩, begins⟩
    obtain ⟨path, pieces⟩ := List.head?_eq_some_iff.mp begins
    rw [pieces, ← List.singleton_append, Node.find?_append, Option.bind_eq_some_iff] at leads
    obtain ⟨node, stands, leads⟩ := leads
    exact ⟨node, path, text, ⟨tags, found, stands⟩, leads⟩
  · rintro ⟨node, path, text, ⟨tags, found, stands⟩, leads⟩
    have whole : tags.find? (first :: path) = some (.file text) := by
      rw [← List.singleton_append, Node.find?_append, stands]
      exact leads
    obtain ⟨_, _, there⟩ := FileSystem.node?_eq_some_iff.mp found
    have pieces : Path.pieces (Path.ofSteps (first :: path)) = first :: path :=
      Path.pieces_ofSteps (List.cons_ne_nil _ _) ((formed.find? there).isName_of_find? whole)
    refine ⟨Path.ofSteps (first :: path), ⟨tags, text, found, ?_⟩, ?_⟩
    · rwa [pieces]
    · rw [pieces, List.head?_cons]

end Loose

namespace TagStore

variable {site : Site} (store : TagStore site)

/-- What is listed is the first part of the name of every tag with a file of its own, the whole name of every packed tag, and
what strays. -/
theorem mem_gitTags_iff {tag : String} :
    tag ∈ gitTags site ↔ (∃ name, IsLooseTag site name ∧ (Path.pieces name).head? = some tag) ∨
      (∃ row ∈ store.rows, row.tag? = some tag) ∨ store.Strays tag := by
  have stands : (∃ node, StandsLoose site tag node) ↔
      (∃ node path text, StandsLoose site tag node ∧ node.find? path = some (.file text)) ∨
        ∃ node, StandsLoose site tag node ∧ ∀ path text, node.find? path ≠ some (.file text) := by
    constructor
    · rintro ⟨node, here⟩
      by_cases holds : ∃ path text, node.find? path = some (.file text)
      · obtain ⟨path, text, leads⟩ := holds
        exact .inl ⟨node, path, text, here, leads⟩
      · exact .inr ⟨node, here, fun path text leads => holds ⟨path, text, leads⟩⟩
    · rintro (⟨node, _, _, here, _⟩ | ⟨node, here, _⟩)
      · exact ⟨node, here⟩
      · exact ⟨node, here⟩
  rw [mem_gitTags, mem_looseTags_iff, stands, store.mem_packedTags_iff, exists_isLooseTag_iff store.formed, Strays]
  simp only [and_or_left, exists_or]
  rw [or_or_or_comm, or_assoc]

/-- The tags are listed in increasing order, each once. Where no tag stands in the way of another one, the listing is that
of all tags just when no tag with a file of its own has a slash in its name, and all that strays is a tag besides. -/
theorem gitTags_eq_tags_iff (separate : store.Separate) :
    (gitTags site).Pairwise (· < ·) ∧
      ((∀ tag, tag ∈ gitTags site ↔ store.IsTag tag) ↔
        (∀ name, IsLooseTag site name → '/' ∉ name.toList) ∧ ∀ name, store.Strays name → store.IsTag name) := by
  refine ⟨gitTags_increasing site, ?_⟩
  simp only [store.mem_gitTags_iff]
  constructor
  · intro exactly
    refine ⟨fun name loose slash => ?_, fun name strays => (exactly name).mp (.inr (.inr strays))⟩
    obtain ⟨first, rest, pieces⟩ := List.exists_cons_of_ne_nil (Path.pieces_ne_nil name)
    have listed : store.IsTag first := (exactly first).mp (.inl ⟨name, loose, by rw [pieces, List.head?_cons]⟩)
    have part : '/' ∉ first.toList := Path.slash_not_mem_of_mem_pieces (pieces ▸ List.mem_cons_self)
    have lead : Path.pieces first <+: Path.pieces name := by
      rw [Path.pieces_of_slashless part, pieces]
      exact ⟨rest, rfl⟩
    exact part (separate first name listed (.inl loose) lead ▸ slash)
  · rintro ⟨flat, strays⟩ tag
    have loose : (∃ name, IsLooseTag site name ∧ (Path.pieces name).head? = some tag) ↔ IsLooseTag site tag := by
      constructor
      · rintro ⟨name, loose, begins⟩
        rw [Path.pieces_of_slashless (flat name loose), List.head?_cons] at begins
        exact Option.some.inj begins ▸ loose
      · intro loose
        exact ⟨tag, loose, by rw [Path.pieces_of_slashless (flat tag loose), List.head?_cons]⟩
    rw [loose, ← or_assoc]
    exact or_iff_left_of_imp (strays tag)

end TagStore

/-- A site with one tag in a file of its own, and with packed references. -/
def gitSite (tag packed : String) : Site where
  files := ⟨.directory [(".git", .directory [("packed-refs", .file (some packed)),
    ("refs", .directory [("tags", .lone (Path.pieces tag) (some "abc\n"))])])], []⟩
  root := "."

section GitSite

variable {tag packed name : String} {node : Node}

theorem node?_gitSite : (gitSite tag packed).files.node? ((gitSite tag packed).locate ".git/refs/tags") =
    some (.lone (Path.pieces tag) (some "abc\n")) := by
  have pieces : Path.pieces ".git/refs/tags" = [".git", "refs", "tags"] := by decide
  rw [FileSystem.node?, Site.locate_of_dot rfl (by decide) (by decide), pieces]
  rfl

theorem read_gitSite : (gitSite tag packed).files.read ((gitSite tag packed).locate ".git/packed-refs") = .ok packed := by
  have pieces : Path.pieces ".git/packed-refs" = [".git", "packed-refs"] := by decide
  rw [FileSystem.read, Site.locate_of_dot rfl (by decide) (by decide), pieces]
  rfl

theorem wellFormed_gitSite (named : ∀ piece ∈ Path.pieces tag, IsName piece) : (gitSite tag packed).WellFormed := by
  have tags : (Node.directory [("tags", .lone (Path.pieces tag) (some "abc\n"))]).WellFormed :=
    Node.wellFormed_singleton (by decide) (Node.wellFormed_lone named)
  refine Node.wellFormed_singleton (by decide) (.directory (List.pairwise_pair.mpr ?_) ?_ ?_)
  · exact (by decide : "packed-refs" < "refs")
  · rw [List.forall_mem_cons, List.forall_mem_singleton]
    exact (by decide : IsName "packed-refs" ∧ IsName "refs")
  · rw [List.forall_mem_cons, List.forall_mem_singleton]
    exact ⟨.file _, tags⟩

theorem isLooseTag_gitSite_iff : IsLooseTag (gitSite tag packed) name ↔ name = tag := by
  rw [IsLooseTag, node?_gitSite]
  constructor
  · rintro ⟨_, text, found, leads⟩
    obtain rfl := Option.some.inj found
    obtain ⟨rest, pieces, last⟩ := Node.find?_lone_eq_some_iff.mp leads
    cases rest with
    | nil => exact Path.pieces_injective (by rw [pieces, List.append_nil])
    | cons step rest => cases last
  · rintro rfl
    exact ⟨_, _, rfl, Node.find?_lone_eq_some_iff.mpr ⟨[], (List.append_nil _).symm, rfl⟩⟩

theorem exists_file_of_standsLoose_gitSite (stands : StandsLoose (gitSite tag packed) name node) :
    ∃ path text, node.find? path = some (.file text) := by
  obtain ⟨tags, found, there⟩ := stands
  obtain rfl := Option.some.inj (node?_gitSite.symm.trans found)
  obtain ⟨rest, _, rfl⟩ := Node.find?_lone_eq_some_iff.mp there
  exact ⟨rest, _, Node.find?_lone_eq_some_iff.mpr ⟨[], (List.append_nil rest).symm, rfl⟩⟩

end GitSite

/-- References packed after a release whose name has a slash, with the commit that its tag leads to. -/
def packedRows : List PackedLine :=
  [.remark " pack-refs with: peeled fully-peeled sorted ".toList,
    .ref "abc".toList "refs/heads/main".toList (by decide) (by decide),
    .ref "abc".toList "refs/tags/release/1.0.0".toList (by decide) (by decide), .peeled "def".toList (by decide),
    .ref "abc".toList "refs/tags/v1.0.0".toList (by decide) (by decide)]

def packedText : String :=
  "# pack-refs with: peeled fully-peeled sorted \nabc refs/heads/main\n" ++
    "abc refs/tags/release/1.0.0\n^def\nabc refs/tags/v1.0.0\n"

set_option maxRecDepth 1000 in
theorem lines_packedText : lines packedText.toList = packedRows.map PackedLine.chars := by
  have chars : packedText.toList = _ ++ _ :=
    String.toList_append.trans (congrArg₂ _ String.toList_ofList String.toList_ofList)
  rw [chars]
  decide +kernel

/-- A tag that is both loose and packed, and one that is packed only. -/
def mixedStore : TagStore (gitSite "v1.0.0" packedText) where
  rows := packedRows
  formed := wellFormed_gitSite (by decide)
  packed := .inl ⟨packedText, read_gitSite, lines_packedText⟩

theorem gitTags_of_mixedStore :
    mixedStore.Separate ∧
      ∀ tag, tag ∈ gitTags (gitSite "v1.0.0" packedText) ↔ mixedStore.IsTag tag := by
  have packed : packedRows.filterMap PackedLine.tag? = ["release/1.0.0", "v1.0.0"] := by decide +kernel
  have mentions : packedRows.filterMap PackedLine.mention? = [] := by decide +kernel
  have isTag (name : String) (stored : mixedStore.IsTag name) : name ∈ ["release/1.0.0", "v1.0.0"] := by
    rcases stored with loose | row
    · rw [isLooseTag_gitSite_iff.mp loose]
      decide
    · exact packed ▸ List.mem_filterMap.mpr row
  have separate : mixedStore.Separate := by
    intro name other stored stored'
    have each : ∀ name ∈ ["release/1.0.0", "v1.0.0"], ∀ other ∈ ["release/1.0.0", "v1.0.0"],
        Path.pieces name <+: Path.pieces other → name = other := by decide +kernel
    exact each name (isTag name stored) other (isTag other stored')
  refine ⟨separate, (mixedStore.gitTags_eq_tags_iff separate).2.mpr ⟨fun name loose => ?_, fun name strays => ?_⟩⟩
  · rw [isLooseTag_gitSite_iff.mp loose]
    decide
  · rcases strays with ⟨node, stands, empty⟩ | row
    · obtain ⟨path, text, leads⟩ := exists_file_of_standsLoose_gitSite stands
      exact absurd leads (empty path text)
    · have mentioned : name ∈ packedRows.filterMap PackedLine.mention? := List.mem_filterMap.mpr row
      rw [mentions] at mentioned
      cases mentioned

/-- A tag with a file of its own and a slash in its name is listed by the directory its file is in. -/
theorem nested_loose_tag_cut_short :
    ¬ ∀ (site : Site) (store : TagStore site), store.Separate → (∀ name, ¬ store.Strays name) →
      ∀ tag, tag ∈ gitTags site ↔ store.IsTag tag := by
  intro whole
  let store : TagStore (gitSite "release/1.0.0" "") :=
    { rows := [], formed := wellFormed_gitSite (by decide), packed := .inl ⟨"", read_gitSite, rfl⟩ }
  have isTag (name : String) (stored : store.IsTag name) : name = "release/1.0.0" := by
    rcases stored with loose | ⟨row, none, _⟩
    · exact isLooseTag_gitSite_iff.mp loose
    · cases none
  have separate : store.Separate := fun name other stored stored' _ => (isTag name stored).trans (isTag other stored').symm
  have settled (name : String) : ¬ store.Strays name := by
    rintro (⟨node, stands, empty⟩ | ⟨row, none, _⟩)
    · obtain ⟨path, text, leads⟩ := exists_file_of_standsLoose_gitSite stands
      exact empty path text leads
    · cases none
  have listed : "release" ∈ gitTags (gitSite "release/1.0.0" "") :=
    store.mem_gitTags_iff.mpr (.inl ⟨"release/1.0.0", isLooseTag_gitSite_iff.mpr rfl, by decide⟩)
  exact absurd (isTag "release" ((whole _ store separate settled "release").mp listed)) (by decide)

end Check

end Plumbline
