import Plumbline.Blueprint.Extraction
import Plumbline.Proofs.Blueprint.Entry

namespace Plumbline

namespace LayoutNode

open NameMap

theorem insertEntry_ne_nil (name : String) (node : LayoutNode) (entries : Entries) :
    insertEntry name node entries ≠ [] := by
  intro nothing
  have there := lookup_insertEntry_self name node entries
  rw [nothing] at there
  cases there

theorem store_ne_nil (name : String) (node : LayoutNode) (entries : Entries) : store name node entries ≠ [] := by
  unfold store
  split
  · rename_i there
    rintro rfl
    cases there
  · exact insertEntry_ne_nil _ _ entries

theorem storeAt_ne_nil (name : String) (node : LayoutNode) (path : List String) (entries : Entries) :
    storeAt name node path entries ≠ [] := by
  induction path with
  | nil => exact store_ne_nil name node entries
  | cons step path ih =>
    rw [storeAt]
    split
    · exact insertEntry_ne_nil _ _ entries
    · exact ih

end LayoutNode

namespace Diagram

theorem isEmpty_step_iff {drawing : Drawing} {line : List Char} :
    (drawing.step line).layout.isEmpty = true ↔ drawing.layout.isEmpty = true ∧ entryOf? line = none := by
  cases atLine : entryOf? line with
  | some entry =>
    rw [step_of_entry drawing atLine, Layout.isEmpty, List.isEmpty_iff]
    exact iff_of_false (LayoutNode.storeAt_ne_nil _ _ _ _) (by simp)
  | none => rw [step_layout_of_no_entry drawing atLine, and_iff_left rfl]

theorem isEmpty_foldl_step_iff {rows : List (List Char)} {drawing : Drawing} :
    (rows.foldl Drawing.step drawing).layout.isEmpty = true ↔
      drawing.layout.isEmpty = true ∧ ∀ line ∈ rows, entryOf? line = none := by
  induction rows generalizing drawing with
  | nil => simp
  | cons line rest ih => rw [List.foldl_cons, ih, isEmpty_step_iff, List.forall_mem_cons, and_assoc]

/-- A diagram draws nothing just when none of its lines has an entry. -/
theorem isEmpty_parse_iff {text : String} :
    (parse text).isEmpty = true ↔ ∀ line ∈ Text.lines text.toList, entryOf? line = none :=
  isEmpty_foldl_step_iff.trans (and_iff_right rfl)

end Diagram

namespace Blueprint

/-- The diagram of the layout: the first code of its section, if that looks like a diagram. -/
def diagram? (document : Document) : Option String := do
  let heading ← document.findHeading? layoutHeadings
  let block ← document.firstBlockInSection? heading
  if Diagram.looksLike block.text then some block.text else none

theorem layout_eq (document : Document) : layout document = match diagram? document with
    | some diagram => (Diagram.parse diagram, [])
    | none => (.empty, [if (document.findHeading? layoutHeadings).isNone then .missingDirectorySection
        else .unparseableDirectoryTree]) := by
  unfold layout diagram?
  cases document.findHeading? layoutHeadings with
  | none => rfl
  | some heading =>
    cases found : document.firstBlockInSection? heading with
    | none => simp [found]
    | some block => by_cases drawn : Diagram.looksLike block.text <;> simp [found, drawn]

/-- The layout is drawn, but no line of the diagram has an entry. -/
def DrawsNothing (document : Document) : Prop :=
  ∃ diagram ∈ diagram? document, ∀ line ∈ Text.lines diagram.toList, Diagram.entryOf? line = none

theorem diagram?_of_no_heading {document : Document} (none : document.findHeading? layoutHeadings = .none) :
    diagram? document = .none := by
  rw [diagram?, none]
  rfl

theorem mem_layout_iff {document : Document} {warning : Warning} : warning ∈ (layout document).2 ↔
    document.findHeading? layoutHeadings = none ∧ warning = .missingDirectorySection ∨
      document.findHeading? layoutHeadings ≠ none ∧ diagram? document = none ∧ warning = .unparseableDirectoryTree := by
  rw [layout_eq]
  cases sought : document.findHeading? layoutHeadings with
  | none => simp [diagram?, sought]
  | some heading => cases diagram? document <;> simp

theorem isEmpty_layout_iff {document : Document} :
    (layout document).1.isEmpty = true ↔ diagram? document = none ∨ DrawsNothing document := by
  rw [layout_eq, DrawsNothing]
  cases diagram? document with
  | none => exact iff_of_true rfl (.inl rfl)
  | some diagram => simp [Diagram.isEmpty_parse_iff]

theorem layout_warnings_sublist (document : Document) :
    (layout document).2.Sublist [.missingDirectorySection, .unparseableDirectoryTree] := by
  rw [layout_eq]
  split
  · exact List.nil_sublist _
  · split <;> simp

theorem mem_warnIf {isMissing : Bool} {warning other : Warning} :
    other ∈ warnIf isMissing warning ↔ isMissing = true ∧ other = warning := by
  cases isMissing <;> simp [warnIf]

theorem warnIf_sublist (isMissing : Bool) (warning : Warning) : (warnIf isMissing warning).Sublist [warning] := by
  cases isMissing
  · exact List.nil_sublist _
  · exact List.Sublist.refl _

section Extract

variable (text : String)

theorem warnings_extract : (extract text).warnings =
    warnIf (extract text).spec.projectName.isEmpty .missingTitle ++ (layout (.ofText text)).2 ++
    warnIf (extract text).spec.models.isEmpty .noModels ++ warnIf (extract text).spec.apps.isEmpty .noApps ++
    warnIf ((extract text).spec.dependencies.backend.isEmpty && (extract text).spec.dependencies.frontend.isEmpty)
      .noDependencies := by
  simp only [extract]

theorem layout_extract : (extract text).spec.layout = (layout (.ofText text)).1 := by
  simp only [extract]

/-- No warning comes up twice. -/
theorem nodup_warnings_extract : (extract text).warnings.Nodup := by
  have listed : (extract text).warnings.Sublist ([.missingTitle] ++
      [.missingDirectorySection, .unparseableDirectoryTree] ++ [.noModels] ++ [.noApps] ++ [.noDependencies]) := by
    rw [warnings_extract]
    exact ((((warnIf_sublist _ _).append (layout_warnings_sublist _)).append (warnIf_sublist _ _)).append
      (warnIf_sublist _ _)).append (warnIf_sublist _ _)
  exact listed.nodup (by decide)

end Extract

theorem mem_warnings_extract {text : String} {warning : Warning} : warning ∈ (extract text).warnings ↔
    (extract text).spec.projectName = "" ∧ warning = .missingTitle ∨ warning ∈ (layout (.ofText text)).2 ∨
      (extract text).spec.models = [] ∧ warning = .noModels ∨ (extract text).spec.apps = [] ∧ warning = .noApps ∨
      ((extract text).spec.dependencies.backend = [] ∧ (extract text).spec.dependencies.frontend = []) ∧
        warning = .noDependencies := by
  rw [warnings_extract]
  simp only [List.mem_append, mem_warnIf, String.isEmpty_iff, List.isEmpty_iff, Bool.and_eq_true, or_assoc]

/-- The warnings of an extraction name the parts of a blueprint that came out empty, and no others. The one exception
is a layout whose diagram has no entries. -/
structure TellsGaps (document : Document) (extraction : Extraction) : Prop where
  once : extraction.warnings.Nodup
  title : .missingTitle ∈ extraction.warnings ↔ extraction.spec.projectName = ""
  models : .noModels ∈ extraction.warnings ↔ extraction.spec.models = []
  apps : .noApps ∈ extraction.warnings ↔ extraction.spec.apps = []
  dependencies : .noDependencies ∈ extraction.warnings ↔
    extraction.spec.dependencies.backend = [] ∧ extraction.spec.dependencies.frontend = []
  layoutSection : .missingDirectorySection ∈ extraction.warnings ↔ document.findHeading? layoutHeadings = none
  layoutOnce : ¬(.missingDirectorySection ∈ extraction.warnings ∧ .unparseableDirectoryTree ∈ extraction.warnings)
  layout : .missingDirectorySection ∈ extraction.warnings ∨ .unparseableDirectoryTree ∈ extraction.warnings ↔
    extraction.spec.layout.isEmpty = true ∧ ¬DrawsNothing document

theorem missing_mem_iff {text : String} : .missingDirectorySection ∈ (extract text).warnings ↔
    (Document.ofText text).findHeading? layoutHeadings = none := by
  simp [mem_warnings_extract, mem_layout_iff]

theorem unparseable_mem_iff {text : String} : .unparseableDirectoryTree ∈ (extract text).warnings ↔
    (Document.ofText text).findHeading? layoutHeadings ≠ none ∧ diagram? (.ofText text) = none := by
  simp [mem_warnings_extract, mem_layout_iff]

/-- A warning about the layout comes up just where it is not drawn. -/
theorem missing_or_unparseable_mem_iff {text : String} :
    .missingDirectorySection ∈ (extract text).warnings ∨ .unparseableDirectoryTree ∈ (extract text).warnings ↔
      diagram? (.ofText text) = none := by
  rw [missing_mem_iff, unparseable_mem_iff]
  constructor
  · exact fun told => told.elim diagram?_of_no_heading And.right
  · exact fun undrawn => (em _).imp_right fun headed => ⟨headed, undrawn⟩

theorem tellsGaps_extract (text : String) : TellsGaps (.ofText text) (extract text) := by
  refine ⟨nodup_warnings_extract text, ?title, ?models, ?apps, ?dependencies, missing_mem_iff, ?once, ?layout⟩
  case title | models | apps | dependencies => simp [mem_warnings_extract, mem_layout_iff]
  case once =>
    rw [missing_mem_iff, unparseable_mem_iff]
    exact fun ⟨missing, headed, _⟩ => headed missing
  case layout =>
    rw [missing_or_unparseable_mem_iff, layout_extract, isEmpty_layout_iff]
    constructor
    · exact fun undrawn => ⟨.inl undrawn, fun ⟨diagram, drawn, _⟩ => Option.not_mem_none diagram (undrawn ▸ drawn)⟩
    · exact fun ⟨empty, drawn⟩ => empty.resolve_right drawn

/-- A layout section with a diagram of two directories whose names do not end in a slash. -/
def slashless : String := "# P\n\n## Directory Structure\n\n\x60\x60\x60\n├── src\n└── tests\n\x60\x60\x60\n"

/-- A layout may come out empty without a warning. -/
theorem diagram_without_entries_not_told :
    ¬ ∀ text : String, (extract text).spec.layout.isEmpty = true →
      .missingDirectorySection ∈ (extract text).warnings ∨ .unparseableDirectoryTree ∈ (extract text).warnings := by
  intro told
  have drawn : diagram? (.ofText slashless) = some "├── src\n└── tests\n" := by decide +kernel
  have nothing : ∀ line ∈ Text.lines "├── src\n└── tests\n".toList, Diagram.entryOf? line = none := by decide +kernel
  have empty : (extract slashless).spec.layout.isEmpty = true := by
    rw [layout_extract, isEmpty_layout_iff]
    exact .inr ⟨_, drawn, nothing⟩
  have undrawn := missing_or_unparseable_mem_iff.mp (told slashless empty)
  rw [drawn] at undrawn
  cases undrawn

end Blueprint

end Plumbline
