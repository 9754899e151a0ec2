import Plumbline.Files.FileSystem
import Plumbline.Proofs.Files.Path

namespace Plumbline

namespace FileSystem

variable {files : FileSystem}

def DirectoryAt (files : FileSystem) (place : List String) : Prop :=
  ∃ entries, files.top.find? place = some (.directory entries)

/-- What leads to something is a directory, all the way. -/
theorem directoryAt_of_append {place rest : List String} {node : Node} (further : rest ≠ [])
    (there : files.top.find? (place ++ rest) = some node) : files.DirectoryAt place := by
  obtain ⟨name, rest, rfl⟩ := List.exists_cons_of_ne_nil further
  rw [Node.find?_append] at there
  obtain ⟨found, atPlace, leads⟩ := Option.bind_eq_some_iff.mp there
  obtain ⟨entries, _, rfl, _, _⟩ := Node.find?_cons_eq_some.mp leads
  exact ⟨entries, atPlace⟩

theorem directoryAt_of_above {lead place : List String} (before : lead <+: place)
    (there : files.DirectoryAt place) : files.DirectoryAt lead := by
  obtain ⟨rest, rfl⟩ := before
  by_cases same : rest = []
  · rwa [same, List.append_nil] at there
  · obtain ⟨entries, found⟩ := there
    exact directoryAt_of_append same found

/-- A step goes where its piece turns to, from a directory to something that is there. -/
theorem step_eq_ok_iff {place next : List String} {piece : String} :
    files.step place piece = .ok next ↔
      files.DirectoryAt place ∧ piece.utf8ByteSize ≤ longestName ∧
        (∃ node, files.top.find? (Path.turn place piece) = some node) ∧ next = Path.turn place piece := by
  rcases here : files.top.find? place with _ | _ | entries
  · simp [step, DirectoryAt, here]
  · simp [step, DirectoryAt, here]
  have directory : files.DirectoryAt place := ⟨entries, here⟩
  -- a piece that names nothing is short, and what it leads to is there
  have goes {goal : List String} (short : piece.utf8ByteSize ≤ longestName) (goalDirectory : files.DirectoryAt goal) :
      Except.ok goal = (Except.ok next : Except FileError (List String)) ↔
        files.DirectoryAt place ∧ piece.utf8ByteSize ≤ longestName ∧
          (∃ node, files.top.find? goal = some node) ∧ next = goal := by
    obtain ⟨_, found⟩ := goalDirectory
    simp [directory, short, found, eq_comm]
  rw [step, here]
  by_cases stays : (piece = "" || piece = ".") = true
  · have short : piece.utf8ByteSize ≤ longestName := by
      rcases (by simpa using stays : piece = "" ∨ piece = ".") with rfl | rfl <;> decide
    have turned : Path.turn place piece = place := if_pos stays
    rw [turned]
    simp only [if_pos stays]
    exact goes short directory
  by_cases up : piece = ".."
  · have short : piece.utf8ByteSize ≤ longestName := by rw [up]; decide
    have turned : Path.turn place piece = place.dropLast := by rw [Path.turn, if_neg stays, if_pos up]
    rw [turned]
    simp only [if_neg stays, if_pos up]
    exact goes short (directoryAt_of_above place.dropLast_prefix directory)
  · have turned : Path.turn place piece = place ++ [piece] := by rw [Path.turn, if_neg stays, if_neg up]
    have found : files.top.find? (place ++ [piece]) = entries.lookup piece := by
      rw [Node.find?_append, here]
      cases there : entries.lookup piece <;> simp [Node.find?, Node.child?, there]
    simp only [if_neg stays, if_neg up, turned, found, directory, true_and]
    by_cases long : longestName < piece.utf8ByteSize
    · simp [long, Nat.not_le.mpr long]
    · cases there : entries.lookup piece with
      | none => simp [long]
      | some node => simp [long, Nat.not_lt.mp long, eq_comm]

variable {place last : List String} {pieces : List String}

theorem foldlM_step_cons_eq_ok_iff {piece : String} :
    (piece :: pieces).foldlM files.step place = .ok last ↔
      (files.DirectoryAt place ∧ piece.utf8ByteSize ≤ longestName ∧
        ∃ node, files.top.find? (Path.turn place piece) = some node) ∧
      pieces.foldlM files.step (Path.turn place piece) = .ok last := by
  rw [List.foldlM_cons]
  constructor
  · intro led
    cases taken : files.step place piece with
    | error e => rw [taken] at led; cases led
    | ok next =>
      rw [taken] at led
      obtain ⟨directory, short, there, rfl⟩ := step_eq_ok_iff.mp taken
      exact ⟨⟨directory, short, there⟩, led⟩
  · rintro ⟨⟨directory, short, there⟩, led⟩
    rw [step_eq_ok_iff.mpr ⟨directory, short, there, rfl⟩]
    exact led

/-- Steps that succeed lead where the pieces turn to, through directories only. -/
theorem eq_of_foldlM_step (led : pieces.foldlM files.step place = .ok last) : last = pieces.foldl Path.turn place := by
  induction pieces generalizing place with
  | nil => exact (Except.ok.inj led).symm
  | cons piece pieces ih => exact ih (foldlM_step_cons_eq_ok_iff.mp led).2

theorem directoryAt_of_mem_places (led : pieces.foldlM files.step place = .ok last) {visited : List String}
    (member : visited ∈ Path.places place pieces) : visited = last ∨ files.DirectoryAt visited := by
  induction pieces generalizing place with
  | nil =>
    cases Except.ok.inj led
    exact Or.inl (List.mem_singleton.mp member)
  | cons piece pieces ih =>
    obtain ⟨⟨directory, _⟩, led⟩ := foldlM_step_cons_eq_ok_iff.mp led
    rw [Path.places_cons] at member
    rcases List.mem_cons.mp member with rfl | later
    · exact Or.inr directory
    · exact ih led later

/-- Steps succeed alike where what they pass is there in both file systems, and is a directory in both or in neither. -/
theorem foldlM_step_transfer {other : FileSystem}
    (alike : ∀ visited ∈ Path.places place pieces, ∀ node, files.top.find? visited = some node →
      ∃ node', other.top.find? visited = some node' ∧ node'.isDirectory = node.isDirectory)
    (led : pieces.foldlM files.step place = .ok last) : pieces.foldlM other.step place = .ok last := by
  induction pieces generalizing place with
  | nil => exact led
  | cons piece pieces ih =>
    rw [Path.places_cons] at alike
    obtain ⟨here, alike⟩ := List.forall_mem_cons.mp alike
    obtain ⟨⟨⟨entries, directory⟩, short, node, found⟩, led⟩ := foldlM_step_cons_eq_ok_iff.mp led
    have directory' : other.DirectoryAt place := by
      obtain ⟨node', found', same⟩ := here _ directory
      cases node' with
      | file text => cases same
      | directory entries' => exact ⟨entries', found'⟩
    obtain ⟨node', found', _⟩ := alike _ (Path.mem_places_self _ _) node found
    exact foldlM_step_cons_eq_ok_iff.mpr ⟨⟨directory', short, node', found'⟩, ih alike led⟩

/-- Files put at any paths, one after the other, leave every directory listed as it should be. -/
theorem wellFormed_put {path : String} {node : Node} (formed : files.top.WellFormed) (formed' : node.WellFormed)
    (named : ∀ name ∈ files.working, IsName name) : (files.put path node).top.WellFormed := by
  have proper : ∀ name ∈ Path.follow (files.origin path) path, IsName name := by
    refine Path.isName_of_mem_follow ?_ path
    rw [origin]
    split
    · exact List.forall_mem_nil _
    · exact named
  unfold put
  dsimp only
  split
  · exact formed
  · exact formed.place formed' proper

/-- A path that the system takes, whatever it leads to. -/
def IsUsable (path : String) : Prop := '\x00' ∉ path.toList ∧ path ≠ "" ∧ path.utf8ByteSize ≤ longestPath

instance (path : String) : Decidable (IsUsable path) := inferInstanceAs (Decidable (_ ∧ _ ∧ _))

theorem locate_of_isUsable {path : String} (usable : IsUsable path) :
    files.locate path = (Path.pieces path).foldlM files.step (files.origin path) := by
  obtain ⟨noNul, named, short⟩ := usable
  have noNul' : ¬ path.contains '\x00' = true := by rwa [String.contains_char_eq, decide_eq_true_iff]
  have named' : ¬ path.isEmpty = true := by rwa [String.isEmpty_iff]
  rw [locate, if_neg noNul', if_neg named', if_neg (Nat.not_lt.mpr short)]

theorem locate_eq_ok_iff {path : String} :
    files.locate path = .ok last ↔
      IsUsable path ∧ (Path.pieces path).foldlM files.step (files.origin path) = .ok last := by
  constructor
  · intro led
    have usable : IsUsable path := by
      rw [locate] at led
      split at led
      · cases led
      split at led
      · cases led
      split at led
      · cases led
      rename_i noNul named short
      rw [String.contains_char_eq, decide_eq_true_iff] at noNul
      exact ⟨noNul, fun empty => named (by rw [empty]; rfl), Nat.not_lt.mp short⟩
    exact ⟨usable, locate_of_isUsable usable ▸ led⟩
  · rintro ⟨usable, led⟩
    rw [locate_of_isUsable usable, led]

theorem eq_follow_of_locate {path : String} (led : files.locate path = .ok last) :
    last = Path.follow (files.origin path) path := eq_of_foldlM_step (locate_eq_ok_iff.mp led).2

theorem node?_eq_some_iff {path : String} {node : Node} :
    files.node? path = some node ↔ ∃ place, files.locate path = .ok place ∧ files.top.find? place = some node := by
  rw [node?]
  cases files.locate path <;> simp

/-- The text of a file is what its node holds. -/
theorem read_eq_ok_iff {path text : String} :
    files.read path = .ok text ↔ files.node? path = some (.file (some text)) := by
  rw [read, node?]
  cases files.locate path with
  | error e => simp
  | ok place =>
    dsimp only
    rcases files.top.find? place with _ | (_ | _) | _ <;> simp

end FileSystem

end Plumbline
