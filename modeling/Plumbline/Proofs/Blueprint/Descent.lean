import Plumbline.Proofs.Blueprint.Siblings

namespace Plumbline

namespace LayoutNode

/-- The steps of a path that `storeAt` passes over, because they are no directories where it comes to them. -/
def passedOver : List String → Entries → List String
  | [], _ => []
  | step :: path, entries => match entries.lookup step with
    | some (.directory inner) => passedOver path inner
    | _ => step :: passedOver path entries

/-- Nothing is passed over on a path just when it leads to a directory. -/
theorem passedOver_eq_nil_iff {path : List String} {entries : Entries} :
    passedOver path entries = [] ↔ ∃ found, entriesAt? path entries = some found := by
  induction path generalizing entries with
  | nil => exact ⟨fun _ => ⟨entries, rfl⟩, fun _ => rfl⟩
  | cons step path ih =>
    cases atStep : entries.lookup step with
    | none => simp only [passedOver, entriesAt?, atStep, reduceCtorEq, exists_false]
    | some node => cases node with
      | file => simp only [passedOver, entriesAt?, atStep, reduceCtorEq, exists_false]
      | directory inner => simp only [passedOver, entriesAt?, atStep, ih]

example : passedOver ["a", "b"] [("a", .file), ("b", .directory [])] = ["a"] := by decide

end LayoutNode

namespace Diagram

open Text LayoutNode

/-- What an accepted entry makes of a drawing: it is stored where the path, cut at its level, leads to. No step of that
path is passed over on the way, and the entry stands in the directory at its end. -/
structure Enters (before after : Drawing) (entry : Entry) : Prop where
  stored : after.layout.entries =
    storeAt entry.name entry.node (before.path.take entry.level) before.layout.entries
  unbroken : passedOver (before.path.take entry.level) before.layout.entries = []
  held : Holds after.layout (before.path.take entry.level) entry

theorem Rooted.enters {drawing : Drawing} {line : List Char} {entry : Entry} (rooted : Rooted drawing)
    (atLine : entryOf? line = some entry) : Enters drawing (drawing.step line) entry where
  stored := by rw [step_of_entry drawing atLine]
  unbroken := by
    obtain ⟨inner, leads⟩ := rooted
    exact passedOver_eq_nil_iff.mpr (entriesAt?_take leads entry.level)
  held := holds_step rooted atLine

theorem drawn_take_succ {rows : List (List Char)} {n : Nat} {line : List Char} (atNumber : line ∈ rows[n]?) :
    drawn (rows.take (n + 1)) = (drawn (rows.take n)).step line := by
  rw [List.take_add_one, Option.mem_def.mp atNumber, Option.toList_some, drawn_concat]

/-- After every line of a text the path leads to a directory of what is drawn so far, a step at a time from the top. So
an entry never passes over a step of it, and right after its line it stands in the directory that the path, cut at its
level, leads to. Lines without an entry store nothing. -/
theorem path_leads (text : String) (n : Nat) :
    Rooted (drawn ((lines text.toList).take n)) ∧
      ∀ line ∈ (lines text.toList)[n]?, match entryOf? line with
        | some entry =>
          Enters (drawn ((lines text.toList).take n)) (drawn ((lines text.toList).take (n + 1))) entry
        | none =>
          (drawn ((lines text.toList).take (n + 1))).layout = (drawn ((lines text.toList).take n)).layout := by
  have rooted := rooted_drawn ((lines text.toList).take n)
  refine ⟨rooted, fun line atNumber => ?_⟩
  rw [drawn_take_succ atNumber]
  cases atLine : entryOf? line with
  | some entry => exact rooted.enters atLine
  | none => exact step_layout_of_no_entry _ atLine

/-- A file whose line has another below it, and which is a directory further down. -/
def turnedFile : String := "a.d\n└── x.py\na.d/\n└── y.py\n"

theorem path_leads_into_turned_file :
    (lines turnedFile.toList)[3]? = some "└── y.py".toList ∧
      place ((lines turnedFile.toList).take 3) ⟨1, "y.py", false⟩ = ["a.d"] ∧
      Enters (drawn ((lines turnedFile.toList).take 3)) (drawn ((lines turnedFile.toList).take 4)) ⟨1, "y.py", false⟩ := by
  have atNumber : (lines turnedFile.toList)[3]? = some "└── y.py".toList := by decide +kernel
  have atLine : entryOf? "└── y.py".toList = some ⟨1, "y.py", false⟩ := by decide
  have entered := (path_leads turnedFile 3).2 _ atNumber
  rw [atLine] at entered
  exact ⟨atNumber, by decide +kernel, entered⟩

end Diagram

end Plumbline
