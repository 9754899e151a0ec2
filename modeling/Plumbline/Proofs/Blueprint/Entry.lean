import Mathlib.Data.List.Basic
import Plumbline.Proofs.Blueprint.Layout
import Plumbline.Proofs.Text.Class
import Plumbline.Proofs.Text.Lines

namespace Plumbline.Diagram

open Text LayoutNode

/-- The level of the name that a line shows, and the name. A comment shows none, and neither does a line in which no
character of a name is left. -/
def shown? (line : List Char) : Option (Nat × List Char) :=
  let lead := (trimEnd line).takeWhile isGlyph
  let entry := trim ((trimEnd line).drop lead.length)
  if entry.isEmpty || isComment entry || (nameOf entry).isEmpty then none
  else some (lead.length / levelWidth, nameOf entry)

/-- The level of a line, accepted or not. Lines that show no name have none. -/
def level? (line : List Char) : Option Nat := (shown? line).map (·.1)

/-- What a line adds to a layout. -/
structure Entry where
  level : Nat
  name : String
  isDirectory : Bool
deriving DecidableEq, Repr

def Entry.node (entry : Entry) : LayoutNode := if entry.isDirectory then .directory [] else .file

/-- What the entry puts on the path: its own name if it is a directory. -/
def Entry.opens (entry : Entry) : List String := if entry.isDirectory then [entry.name] else []

/-- The entry for a name that a line shows, unless the name is refused. -/
def accepted? (level : Nat) (name : List Char) : Option Entry :=
  if name.getLast? = some '/' then
    let bare := dropRightWhile (· == '/') name
    if isDirectoryName bare then some ⟨level, String.ofList bare, true⟩ else none
  else if isFileName (String.ofList name) then some ⟨level, String.ofList name, false⟩
  else none

/-- The entry of a line. -/
def entryOf? (line : List Char) : Option Entry := (shown? line).bind fun found => accepted? found.1 found.2

/-- The directory that a line puts on the path. -/
def opened (line : List Char) : List String := (entryOf? line).elim [] Entry.opens

theorem accepted?_level {level : Nat} {name : List Char} {entry : Entry} (accepted : accepted? level name = some entry) :
    entry.level = level := by
  simp only [accepted?] at accepted
  split at accepted
  · split at accepted
    · exact (Option.some.inj accepted) ▸ rfl
    · simp at accepted
  · split at accepted
    · exact (Option.some.inj accepted) ▸ rfl
    · simp at accepted

theorem level?_of_entryOf? {line : List Char} {entry : Entry} (atLine : entryOf? line = some entry) :
    level? line = some entry.level := by
  obtain ⟨⟨level, name⟩, shows, accepted⟩ := Option.bind_eq_some_iff.mp atLine
  rw [level?, shows, accepted?_level accepted, Option.map_some]

/-- What becomes of a drawing when a line shows a name. -/
theorem enter_eq (drawing : Drawing) (level : Nat) (name : List Char) :
    drawing.enter level name = match accepted? level name with
      | some entry => ⟨⟨storeAt entry.name entry.node (drawing.path.take level) drawing.layout.entries⟩,
          drawing.path.take level ++ entry.opens⟩
      | none => ⟨drawing.layout, drawing.path.take level⟩ := by
  by_cases slash : name.getLast? = some '/'
  · by_cases valid : isDirectoryName (dropRightWhile (· == '/') name)
    · simp only [Drawing.enter, accepted?, slash, valid, if_true, Drawing.add, Entry.node, Entry.opens]
    · simp only [Drawing.enter, accepted?, slash, valid, if_true, if_false, Bool.false_eq_true]
  · by_cases valid : isFileName (String.ofList name)
    · simp only [Drawing.enter, accepted?, slash, valid, if_true, if_false, Drawing.add, Entry.node, Entry.opens,
        List.append_nil, Bool.false_eq_true]
    · simp only [Drawing.enter, accepted?, slash, valid, if_false, Bool.false_eq_true]

theorem step_eq (drawing : Drawing) (line : List Char) :
    drawing.step line = (shown? line).elim drawing fun found => drawing.enter found.1 found.2 := by
  simp only [Drawing.step, shown?]
  split <;> rfl

/-- A line with an entry stores it in the directory that the path, cut at the level, leads to. -/
theorem step_of_entry {line : List Char} {entry : Entry} (drawing : Drawing) (atLine : entryOf? line = some entry) :
    drawing.step line =
      ⟨⟨storeAt entry.name entry.node (drawing.path.take entry.level) drawing.layout.entries⟩,
        drawing.path.take entry.level ++ entry.opens⟩ := by
  obtain ⟨⟨level, name⟩, shows, accepted⟩ := Option.bind_eq_some_iff.mp atLine
  have sameLevel : entry.level = level := accepted?_level accepted
  rw [step_eq, shows, Option.elim_some, enter_eq, accepted, sameLevel]

/-- A line without an entry leaves the layout alone. -/
theorem step_layout_of_no_entry {line : List Char} (drawing : Drawing) (noEntry : entryOf? line = none) :
    (drawing.step line).layout = drawing.layout := by
  rw [step_eq]
  cases shows : shown? line with
  | none => rfl
  | some found =>
    have refused : accepted? found.1 found.2 = none := by simpa only [entryOf?, shows, Option.bind_some] using noEntry
    rw [Option.elim_some, enter_eq, refused]

/-- Every line that shows a name cuts the path at its level, and a directory goes on it. -/
theorem step_path (drawing : Drawing) (line : List Char) :
    (drawing.step line).path = (level? line).elim drawing.path drawing.path.take ++ opened line := by
  cases atLine : entryOf? line with
  | some entry =>
    rw [step_of_entry drawing atLine, level?_of_entryOf? atLine, opened, atLine]
    rfl
  | none =>
    rw [step_eq, opened, atLine, level?]
    cases shows : shown? line with
    | none => simp
    | some found =>
      have refused : accepted? found.1 found.2 = none := by simpa only [entryOf?, shows, Option.bind_some] using atLine
      simp [enter_eq, refused]

end Plumbline.Diagram
