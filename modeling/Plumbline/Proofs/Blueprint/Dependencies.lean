import Mathlib.Data.List.Perm.Subperm
import Plumbline.Blueprint.Extraction
import Plumbline.Proofs.Blueprint.Models
import Plumbline.Proofs.Blueprint.Pins
import Plumbline.Proofs.NameMap

namespace Plumbline.Dependencies

open Text

/-- The package that a pin is for. -/
def pinName (pin : List Char × List Char) : String := String.ofList (lower pin.1)

def pinVersion (pin : List Char × List Char) : String := String.ofList (dropRightWhile (· == '.') pin.2)

def isKnownPin (pin : List Char × List Char) : Bool := knownBackend.contains (pinName pin)

section Fold

variable {pins : List (List Char × List Char)} {pin : List Char × List Char} {dependencies : Dependencies} {name : String}

theorem addBackend_of_known (known : isKnownPin pin = true) : addBackend dependencies pin =
    { dependencies with
      backend := Distinct.add dependencies.backend (pinName pin)
      pinned := dependencies.pinned.insert (pinName pin) (pinVersion pin) } := if_pos known

theorem addBackend_of_unknown (unknown : ¬ isKnownPin pin = true) : addBackend dependencies pin = dependencies :=
  if_neg unknown

/-- The packages recorded are those of the known pins. -/
theorem mem_backend_foldl_addBackend : name ∈ (pins.foldl addBackend dependencies).backend ↔
    name ∈ dependencies.backend ∨ ∃ pin ∈ pins.filter isKnownPin, pinName pin = name := by
  induction pins generalizing dependencies with
  | nil => simp
  | cons pin pins ih =>
    rw [List.foldl_cons, ih]
    by_cases known : isKnownPin pin = true
    · rw [addBackend_of_known known, List.filter_cons_of_pos known, Distinct.mem_add, or_assoc, List.exists_mem_cons_iff]
      exact or_congr_right (or_congr_left eq_comm)
    · rw [addBackend_of_unknown known, List.filter_cons_of_neg known]

/-- Of several pins of one package the last one counts. -/
theorem get?_foldl_addBackend : (pins.foldl addBackend dependencies).pinned.get? name =
    (((pins.filter isKnownPin).reverse.find? (pinName · == name)).map pinVersion).or
      (dependencies.pinned.get? name) := by
  induction pins generalizing dependencies with
  | nil => simp
  | cons pin pins ih =>
    rw [List.foldl_cons, ih]
    by_cases known : isKnownPin pin = true
    · have put : (dependencies.pinned.insert (pinName pin) (pinVersion pin)).get? name =
          if name = pinName pin then some (pinVersion pin) else dependencies.pinned.get? name :=
        NameMap.lookup_insertEntry ..
      rw [addBackend_of_known known, List.filter_cons_of_pos known, List.reverse_cons, List.find?_append]
      cases (pins.filter isKnownPin).reverse.find? (pinName · == name) with
      | some later => simp
      | none =>
        refine put.trans ?_
        by_cases same : pinName pin = name
        · simp [same]
        · simp [same, Ne.symm same]
    · rw [addBackend_of_unknown known, List.filter_cons_of_neg known]

/-- A package is recorded once, however often it is pinned. -/
theorem nodup_backend_foldl_addBackend (distinct : dependencies.backend.Nodup) :
    (pins.foldl addBackend dependencies).backend.Nodup := by
  induction pins generalizing dependencies with
  | nil => exact distinct
  | cons pin pins ih =>
    refine ih ?_
    by_cases known : isKnownPin pin = true
    · rw [addBackend_of_known known]
      exact Distinct.nodup_add distinct (pinName pin)
    · rwa [addBackend_of_unknown known]

theorem backend_foldl_addFrontend : (pins.foldl addFrontend dependencies).backend = dependencies.backend := by
  induction pins generalizing dependencies with
  | nil => rfl
  | cons pin pins ih => exact ih

end Fold

/-- What is found for a backend are known packages, each of them once. -/
theorem backend_find_subperm (text : String) (document : Document) :
    List.Subperm (find text document).backend knownBackend := by
  simp only [find, backend_foldl_addFrontend]
  refine (nodup_backend_foldl_addBackend List.nodup_nil).subperm fun name member => ?_
  obtain ⟨pin, pinned, rfl⟩ := (mem_backend_foldl_addBackend.mp member).resolve_left List.not_mem_nil
  have known : isKnownPin pin = true := List.of_mem_filter pinned
  exact List.contains_iff_mem.mp known

namespace Entry

variable (entry : Entry)

/-- The version of an entry as it is recorded. -/
def pinnedVersion (entry : Entry) : String := String.ofList (dropRightWhile (· == '.') entry.version)

theorem numbered_pinnedVersion : ∀ c ∈ entry.pinnedVersion.toList, c.isDigit = true ∨ c = '.' := by
  rw [pinnedVersion, String.toList_ofList]
  exact fun c member => entry.numbered c (mem_of_mem_dropRightWhile member)

/-- A pinned version begins with a digit, which no stripping of dots takes away. -/
theorem pinnedVersion_ne_nil (pinned : entry.isPinned = true) : entry.pinnedVersion.toList ≠ [] := by
  rw [pinnedVersion, String.toList_ofList, dropRightWhile, ne_eq, List.reverse_eq_nil_iff, List.dropWhile_eq_nil_iff]
  intro dots
  rw [isPinned] at pinned
  cases version : entry.version with
  | nil =>
    rw [version] at pinned
    cases pinned
  | cons d rest =>
    rw [version] at pinned dots
    have dot : d = '.' := eq_of_beq (dots d (List.mem_reverse.mpr List.mem_cons_self))
    subst dot
    have digit : ('.'.isDigit : Bool) = true := pinned
    cases digit

theorem pinName_pin : pinName entry.pin = entry.name := by
  have all : ∀ name ∈ knownBackend, String.ofList (lower name.toList) = name := by decide +kernel
  exact all entry.name entry.known

theorem name_ne_python : (asciiLower entry.name.toList != "python".toList) = true := by
  have all : ∀ name ∈ knownBackend, (asciiLower name.toList != "python".toList) = true := by decide +kernel
  exact all entry.name entry.known

theorem isKnownPin_pin : isKnownPin entry.pin = true := by
  rw [isKnownPin, entry.pinName_pin]
  exact List.contains_iff_mem.mpr entry.known

end Entry

/-- The pinned entries of a block, the last one first. -/
def pinnedEntries (rows : List Row) : List Entry := ((entries rows).filter Entry.isPinned).reverse

theorem mem_pinnedEntries {rows : List Row} {entry : Entry} :
    entry ∈ pinnedEntries rows ↔ entry ∈ entries rows ∧ entry.isPinned = true := by
  rw [pinnedEntries, List.mem_reverse, List.mem_filter]

theorem filter_isKnownPin_pins (rows : List Row) : (pins rows).filter isKnownPin = pins rows :=
  List.filter_eq_self.mpr (List.forall_mem_map.mpr fun entry _ => entry.isKnownPin_pin)

/-- A blueprint with a block that holds the only mentions of dependencies in it. -/
structure MentionedIn (block : List Char) (text : String) : Prop where
  stands : ∃ piece ∈ (Document.ofText text).blocksIn "toml", piece.text.toList = block
  lines : (((Document.ofText text).blocksIn "toml").flatMap fun piece =>
      findAll readPinLine .none piece.text.toList).filter isKnownPin =
    (findAll readPinLine .none block).filter isKnownPin
  mentions : (findAll readPinMention .none text.toList).filter isKnownPin =
    (findAll readPinMention .none block).filter isKnownPin
  frontend : ∀ piece ∈ (Document.ofText text).blocksIn "json",
    (findAll readTable .none piece.text.toList).flatMap (findAll readEntry .none) = []

section Find

variable {rows : List Row} {text : String}

/-- What is found in a blueprint comes from the pins of its block, which are read twice. -/
theorem exists_find_eq (only : MentionedIn (blockText rows) text) :
    ∃ found : List (List Char × List Char), find text (Document.ofText text) = found.foldl addBackend .none ∧
      found.filter isKnownPin = pins rows ++ pins rows := by
  have frontend : ((Document.ofText text).blocksIn "json").flatMap (fun piece =>
      (findAll readTable .none piece.text.toList).flatMap (findAll readEntry .none)) = [] :=
    List.flatMap_eq_nil_iff.mpr only.frontend
  have lines : findAll readPinLine .none (blockText rows) = pins rows :=
    findAll_readPinLine_blockText rows (List.forall_mem_nil _) rfl
  refine ⟨((Document.ofText text).blocksIn "toml").flatMap (fun piece => findAll readPinLine .none piece.text.toList) ++
    findAll readPinMention .none text.toList, by simp only [find, frontend, List.foldl_nil], ?_⟩
  rw [List.filter_append, only.lines, only.mentions, lines, findAll_readPinMention_blockText, filter_isKnownPin_pins]

theorem dependencies_extract (text : String) :
    (Blueprint.extract text).spec.dependencies = find text (Document.ofText text) := by
  simp only [Blueprint.extract]

/-- The packages of a blueprint are those that its block pins. -/
theorem mem_backend_extract (only : MentionedIn (blockText rows) text) {name : String} :
    name ∈ (Blueprint.extract text).spec.dependencies.backend ↔ ∃ entry ∈ pinnedEntries rows, entry.name = name := by
  obtain ⟨found, same, known⟩ := exists_find_eq only
  rw [dependencies_extract, same, mem_backend_foldl_addBackend, known]
  simp [pins, pinnedEntries, Entry.pinName_pin, none]

/-- The version of a package is the last one that the block pins it to. -/
theorem get?_pinned_extract (only : MentionedIn (blockText rows) text) (name : String) :
    (Blueprint.extract text).spec.dependencies.pinned.get? name =
      ((pinnedEntries rows).find? (·.name == name)).map Entry.pinnedVersion := by
  obtain ⟨found, same, known⟩ := exists_find_eq only
  have last : (pins rows).reverse.find? (pinName · == name) =
      ((pinnedEntries rows).find? (·.name == name)).map Entry.pin := by
    rw [pins, pinnedEntries, ← List.map_reverse, List.find?_map]
    simp only [Function.comp_def, Entry.pinName_pin]
  have nothing : none.pinned.get? name = Option.none := rfl
  rw [dependencies_extract, same, get?_foldl_addBackend, known, List.reverse_append, List.find?_append, Option.or_self, last,
    nothing, Option.or_none, Option.map_map]
  rfl

/-- A block holds the only mentions where it is all the code there is and nothing is mentioned but its pins. -/
theorem mentionedIn_of_blocks {heading : Option Nat}
    (blocks : (Document.ofText text).blocks = [⟨"toml", String.ofList (blockText rows), heading⟩])
    (mentions : findAll readPinMention .none text.toList = pins rows) : MentionedIn (blockText rows) text := by
  have toml : (Document.ofText text).blocksIn "toml" = [⟨"toml", String.ofList (blockText rows), heading⟩] := by
    rw [Document.blocksIn, blocks]
    rfl
  have json : (Document.ofText text).blocksIn "json" = [] := by
    rw [Document.blocksIn, blocks]
    rfl
  refine ⟨?_, ?_, ?_, ?_⟩
  · rw [toml]
    exact ⟨_, List.mem_cons_self, String.toList_ofList⟩
  · rw [toml, List.flatMap_singleton, String.toList_ofList]
  · rw [mentions, findAll_readPinMention_blockText]
  · rw [json]
    exact List.forall_mem_nil _

end Find

/-- The entry that pins the framework to a version behind some signs. -/
def djangoEntry (signs version : List Char) (signed : signs.all ['^', '~', '>', '='].contains = true)
    (numbered : version.all (fun c => c.isDigit || c == '.') = true) : Entry where
  name := "django"
  left := ⟨[' '], List.forall_mem_singleton.mpr (.inl rfl)⟩
  right := ⟨[' '], List.forall_mem_singleton.mpr (.inl rfl)⟩
  signs := signs
  version := version
  known := by decide
  signed := fun c member => by simpa using List.all_eq_true.mp signed c member
  numbered := fun c member => by simpa using List.all_eq_true.mp numbered c member

/-- Two tables with an entry in each. -/
def twoTables (first second : Entry) : List Row := [
  .heading (.ofPlain "main".toList (by decide) (by decide) (by decide)), .entry first,
  .heading (.ofPlain "dev".toList (by decide) (by decide) (by decide)), .entry second,
  .blank ⟨[], List.forall_mem_nil _⟩]

/-- A blueprint that consists of a block. -/
def fenced (rows : List Row) : String :=
  String.ofList ("\x60\x60\x60toml\n".toList ++ (blockText rows ++ "\x60\x60\x60\n".toList))

/-- The framework under both tables at one version. -/
def agreeingRows : List Row :=
  twoTables (djangoEntry ['^'] "4.2".toList (by decide) (by decide))
    (djangoEntry ['~', '='] "4.2".toList (by decide) (by decide))

theorem mentionedIn_agreeingRows : MentionedIn (blockText agreeingRows) (fenced agreeingRows) := by
  have blocks : (Document.ofText (fenced agreeingRows)).blocks =
      [⟨"toml", String.ofList (blockText agreeingRows), .none⟩] := by decide +kernel
  exact mentionedIn_of_blocks blocks (by decide +kernel)

/-- The framework under both tables at two versions. -/
def disagreeingRows : List Row :=
  twoTables (djangoEntry [] "4.2".toList (by decide) (by decide)) (djangoEntry [] "5.0".toList (by decide) (by decide))

theorem mentionedIn_disagreeingRows : MentionedIn (blockText disagreeingRows) (fenced disagreeingRows) := by
  have blocks : (Document.ofText (fenced disagreeingRows)).blocks =
      [⟨"toml", String.ofList (blockText disagreeingRows), .none⟩] := by decide +kernel
  exact mentionedIn_of_blocks blocks (by decide +kernel)

end Plumbline.Dependencies
