import Mathlib.Order.MinMax
import Plumbline.Proofs.Blueprint.Layout
import Plumbline.Proofs.Json.Record
import Plumbline.Specification

namespace Plumbline

open Json

section Parts

variable {room : Nat}

@[simp] theorem Cardinality.ofJson?_toJson (cardinality : Cardinality) :
    Cardinality.ofJson? cardinality.toJson = some cardinality := by
  cases cardinality <;> rfl

@[simp] theorem legible_cardinality (cardinality : Cardinality) : Legible room cardinality.toJson :=
  .string cardinality.label

@[simp] theorem legible_fieldKind (kind : FieldKind) : Legible (room + 1) kind.toJson := by
  cases kind <;> simp [FieldKind.toJson]

@[simp] theorem FieldKind.ofJson?_toJson (kind : FieldKind) : FieldKind.ofJson? kind.toJson = some kind := by
  cases kind with
  | plain constructor =>
    have kind : (FieldKind.plain constructor).toJson.tagged? "kind" =
        some ("plain", .object [("constructor", .string constructor)]) := tagged?_object (by simp) (by simp [isReadable])
    rw [ofJson?, kind]
    simp [record?_object]
  | relation cardinality target =>
    have kind : (FieldKind.relation cardinality target).toJson.tagged? "kind" =
        some ("relation", .object [("relation", cardinality.toJson), ("target", .string target)]) :=
      tagged?_object (by simp) (by simp [isReadable, Cardinality.toJson])
    rw [ofJson?, kind]
    simp [record?_object]

@[simp] theorem legible_model (model : Model) : Legible (room + 3) model.toJson := by
  simp [Model.toJson, legible_table]

@[simp] theorem Model.ofJson?_toJson (model : Model) : Model.ofJson? model.toJson = some model := by
  rw [toJson, ofJson?, record?_object (by simp)]
  simp [table?_table]

@[simp] theorem legible_dependencies (dependencies : Dependencies) : Legible (room + 2) dependencies.toJson := by
  simp [Dependencies.toJson, legible_table]

@[simp] theorem Dependencies.ofJson?_toJson (dependencies : Dependencies) :
    Dependencies.ofJson? dependencies.toJson = some dependencies := by
  rw [toJson, ofJson?, record?_object (by simp)]
  simp [table?_table text?_string]

@[simp] theorem legible_authentication (authentication : Authentication) : Legible room authentication.toJson :=
  .string authentication.key

@[simp] theorem Authentication.ofJson?_toJson (authentication : Authentication) :
    Authentication.ofJson? authentication.toJson = some authentication := by
  cases authentication <;> rfl

/-- A heading whose level has a byte and whose number has four. -/
structure Section.IsSized (s : Section) : Prop where
  level : s.level ≤ 255
  number : ∀ n ∈ s.number, n ≤ largest32

theorem Section.IsSized.legible {s : Section} (sized : s.IsSized) : Legible (room + 1) s.toJson := by
  have level : Legible room (.nat s.level) := legible_nat (sized.level.trans (by decide))
  cases numbered : s.number with
  | none => simp [Section.toJson, numbered, level, Json.optional, Legible.null]
  | some n =>
    have number : Legible room (.nat n) := legible_nat ((sized.number n numbered).trans (by decide))
    simp [Section.toJson, numbered, level, Json.optional, number]

theorem Section.IsSized.ofJson?_toJson {s : Section} (sized : s.IsSized) : Section.ofJson? s.toJson = some s := by
  have level := natural?_nat sized.level
  have number : (Slot.present (.optional .nat s.number)).optional (natural? largest32) = some s.number := by
    cases numbered : s.number with
    | none => rfl
    | some n => exact congrArg (Option.map some) (natural?_nat (sized.number n numbered))
  rw [Section.toJson, Section.ofJson?, record?_object (by simp)]
  simp [level, number]

end Parts

namespace LayoutNode

mutual
/-- How many directories stand in one another in a node, itself counted. -/
def depth : LayoutNode → Nat
  | .file => 0
  | .directory entries => depthAmong entries + 1

def depthAmong : Entries → Nat
  | [] => 0
  | (_, node) :: rest => max node.depth (depthAmong rest)
end

section Depth

variable {entries : Entries} {room : Nat}

theorem depth_le_of_mem {name : String} {node : LayoutNode} (member : (name, node) ∈ entries) :
    node.depth ≤ depthAmong entries := by
  induction entries with
  | nil => exact absurd member List.not_mem_nil
  | cons entry rest ih =>
    rw [depthAmong]
    rcases List.mem_cons.mp member with rfl | later
    · exact le_max_left ..
    · exact (ih later).trans (le_max_right ..)

theorem exists_of_lt_depthAmong (deep : room < depthAmong entries) : ∃ entry ∈ entries, room < entry.2.depth := by
  induction entries with
  | nil => exact absurd deep (Nat.not_lt_zero room)
  | cons entry rest ih =>
    rw [depthAmong] at deep
    rcases lt_max_iff.mp deep with here | further
    · exact ⟨entry, List.mem_cons_self, here⟩
    · obtain ⟨other, member, deeper⟩ := ih further
      exact ⟨other, List.mem_cons_of_mem _ member, deeper⟩

end Depth

section Members

variable {entries : Entries} {room : Nat}

theorem membersOf_eq_map (entries : Entries) : membersOf entries = entries.map fun entry => (entry.1, entry.2.toJson) := by
  induction entries with
  | nil => rfl
  | cons entry rest ih => rw [membersOf, ih, List.map_cons]

theorem legible_toJson (ordered : Ordered entries) (shallow : (directory entries).depth ≤ room) :
    Legible room (directory entries).toJson := by
  induction ordered generalizing room with
  | @intro entries _ _ ih =>
    rw [depth] at shallow
    obtain ⟨room, rfl⟩ := Nat.exists_eq_add_of_le' (Nat.le_of_add_left_le shallow)
    rw [toJson, membersOf_eq_map, legible_object]
    intro member among
    obtain ⟨⟨name, node⟩, listed, rfl⟩ := List.mem_map.mp among
    cases node with
    | file => exact .null
    | directory inner =>
      exact ih name inner listed ((depth_le_of_mem listed).trans (Nat.le_of_add_le_add_right shallow))

theorem entriesOfMembers?_membersOf (each : ∀ entry ∈ entries, ofJson? entry.2.toJson = some entry.2) (held : Entries) :
    entriesOfMembers? held (membersOf entries) = some (NameMap.insertAll entries held) := by
  induction entries generalizing held with
  | nil => rfl
  | cons entry rest ih =>
    obtain ⟨here, others⟩ := List.forall_mem_cons.mp each
    rw [membersOf, entriesOfMembers?, here]
    exact ih others _

theorem Ordered.ofJson?_toJson (ordered : Ordered entries) :
    ofJson? (directory entries).toJson = some (directory entries) := by
  induction ordered with
  | @intro entries increasing _ ih =>
    have each : ∀ entry ∈ entries, ofJson? entry.2.toJson = some entry.2 := by
      rintro ⟨name, node⟩ member
      cases node with
      | file => rfl
      | directory inner => exact ih name inner member
    rw [toJson, ofJson?, entriesOfMembers?_membersOf each, NameMap.insertAll_nil_eq_self increasing, Option.map_some]

theorem entriesOfMembers?_eq_none {members : List (String × Json)} {member : String × Json} (among : member ∈ members)
    (unread : ofJson? member.2 = none) (held : Entries) : entriesOfMembers? held members = none := by
  induction members generalizing held with
  | nil => exact absurd among List.not_mem_nil
  | cons other rest ih =>
    rw [entriesOfMembers?]
    rcases List.mem_cons.mp among with rfl | later
    · rw [unread]
    · split
      · exact ih later _
      · rfl

/-- Where there is no room for all the directories of a node, it is not read. -/
theorem ofJson?_clip_toJson {node : LayoutNode} (deep : room < node.depth) : ofJson? (node.toJson.clip room) = none := by
  induction room generalizing node with
  | zero =>
    cases node with
    | file => exact absurd deep (Nat.not_lt_zero 0)
    | directory entries => rfl
  | succ room ih =>
    cases node with
    | file => exact absurd deep (Nat.not_lt_zero (room + 1))
    | directory entries =>
      rw [depth] at deep
      obtain ⟨entry, member, deeper⟩ := exists_of_lt_depthAmong (Nat.lt_of_add_lt_add_right deep)
      have among : (entry.1, entry.2.toJson.clip room) ∈ (membersOf entries).map fun member =>
          (member.1, member.2.clip room) := by
        rw [membersOf_eq_map, List.map_map]
        exact List.mem_map_of_mem (f := fun entry : String × LayoutNode => (entry.1, entry.2.toJson.clip room)) member
      rw [toJson, clip, ofJson?, entriesOfMembers?_eq_none among (ih deeper), Option.map_none]

end Members

end LayoutNode

namespace Layout

/-- How many directories stand in one another, the one that holds all the rest counted. -/
def depth (layout : Layout) : Nat := (LayoutNode.directory layout.entries).depth

variable {layout : Layout}

theorem ofJson?_of_node {v : Json} :
    Layout.ofJson? v = (LayoutNode.ofJson? v).bind fun
      | .file => none
      | .directory entries => some ⟨entries⟩ := by
  cases v with
  | object members =>
    rw [Layout.ofJson?, LayoutNode.ofJson?]
    cases LayoutNode.entriesOfMembers? [] members <;> rfl
  | _ => rfl

theorem ofJson?_toJson (ordered : LayoutNode.Ordered layout.entries) : Layout.ofJson? layout.toJson = some layout := by
  have node : LayoutNode.ofJson? layout.toJson = some (.directory layout.entries) := ordered.ofJson?_toJson
  rw [ofJson?_of_node, node, Option.bind_some]

theorem ofJson?_clip_toJson {room : Nat} (deep : room < layout.depth) :
    Layout.ofJson? (layout.toJson.clip room) = none := by
  have node : LayoutNode.ofJson? (layout.toJson.clip room) = none := LayoutNode.ofJson?_clip_toJson deep
  rw [ofJson?_of_node, node, Option.bind_none]

end Layout

namespace Specification

/-- A specification whose layout is a table at every depth and whose headings have numbers of their size. -/
structure IsSized (spec : Specification) : Prop where
  ordered : LayoutNode.Ordered spec.layout.entries
  outline : ∀ s ∈ spec.outline, s.IsSized

variable {spec : Specification}

theorem IsSized.legible (sized : spec.IsSized) {room : Nat} (shallow : spec.layout.depth ≤ room + 4) :
    Legible (room + 5) spec.toJson := by
  have layout : Legible (room + 4) spec.layout.toJson := LayoutNode.legible_toJson sized.ordered shallow
  have outline : ∀ s ∈ spec.outline, Legible (room + 3) s.toJson := fun s member => (sized.outline s member).legible
  simpa [toJson, legible_table, layout] using outline

theorem nodup_keys : keys.Nodup := by simp [keys]

theorem IsSized.ofJson?_toJson (sized : spec.IsSized) : ofJson? spec.toJson = some spec := by
  have layout := Layout.ofJson?_toJson sized.ordered
  have outline := list?_map_self fun s member => (sized.outline s member).ofJson?_toJson
  have models := list?_map_self fun model (_ : model ∈ spec.models) => model.ofJson?_toJson
  have fields : spec.toJson.record? keys = some _ := record?_of_keys nodup_keys rfl
  rw [ofJson?, fields]
  -- Simplifying under so many binds takes twice the time for each of them, so they are gone through one by one.
  refine (Option.bind_some _ _).trans ?_
  iterate 7 refine bind_present "" (text?_string _) ?_
  refine bind_present [] (list?_strings _) ?_
  refine bind_present [] models ?_
  refine bind_present .empty (table?_table list?_strings _) ?_
  refine bind_present .empty layout ?_
  refine bind_present .none spec.dependencies.ofJson?_toJson ?_
  iterate 5 refine bind_present [] (list?_strings _) ?_
  refine bind_present false (flag?_bool _) ?_
  refine bind_present "" (text?_string _) ?_
  refine bind_present .session spec.authentication.ofJson?_toJson ?_
  refine bind_present .empty (table?_table list?_strings _) ?_
  exact bind_present [] outline rfl

theorem ofJson?_clip_toJson {room : Nat} (deep : room < spec.layout.depth) :
    ofJson? (spec.toJson.clip (room + 1)) = none := by
  have layout := Layout.ofJson?_clip_toJson deep
  have fields : (spec.toJson.clip (room + 1)).record? keys = some _ := record?_of_keys nodup_keys rfl
  rw [ofJson?, fields]
  refine (Option.bind_some _ _).trans ?_
  -- Whatever the ten fields in front of the layout hold, nothing comes of the whole.
  iterate 10 refine Option.bind_eq_none_iff.mpr fun _ _ => ?_
  refine Option.bind_eq_none_iff.mpr fun _ found => ?_
  cases layout.symm.trans found

/-- Every specification is given back by its value, and by the text of its value just when the reader goes as deep as
the layout: whatever its strings and tables hold, whatever kinds its fields are of, and with numbers of headings or
without. -/
theorem IsSized.reads_back (sized : spec.IsSized) :
    ofJson? spec.toJson = some spec ∧
      (spec.layout.depth < maxDepth → (parse spec.toJson.pretty).bind ofJson? = some spec) ∧
      (maxDepth ≤ spec.layout.depth → (parse spec.toJson.pretty).bind ofJson? = none) := by
  refine ⟨sized.ofJson?_toJson, fun shallow => ?_, fun deep => ?_⟩
  · have legible : Legible (122 + 5) spec.toJson := sized.legible (Nat.le_of_lt_succ shallow)
    rw [legible.parse_pretty, Option.bind_some, sized.ofJson?_toJson]
  · have legible : Legible (spec.layout.depth + 5) spec.toJson := sized.legible (Nat.le_add_right ..)
    rw [legible.parse_pretty_eq_clip, Option.bind_some]
    exact ofJson?_clip_toJson deep

/-- A specification with strings that need escapes, fields of both kinds, and directories in directories. -/
def sample : Specification where
  __ := empty
  projectName := "say \x22no\x22"
  projectDescription := "a\\b\n\t\x01 é∀"
  models := [⟨"Loan", "models.Model", ["amount", "customer"],
    .ofList [("amount", .plain "DecimalField"), ("customer", .relation .foreignKey "crm.Customer")], ["crm.Customer"],
    ["total"], false⟩]
  relationships := .ofList [("Loan", ["crm.Customer"]), ("", [])]
  layout := ⟨[("a \x22b\x22", .directory [("c", .directory []), ("d.py", .file)])]⟩
  dependencies := ⟨["django"], [], .ofList [("django", "4.2")]⟩
  authentication := .jwt
  outline := [⟨1, none, "Loans"⟩, ⟨2, some 4294967295, ""⟩]

theorem isSized_sample : sample.IsSized where
  ordered := by
    have inner : LayoutNode.Ordered [("c", .directory []), ("d.py", .file)] :=
      .intro (by decide) (by simpa using .intro .nil (by simp))
    exact .intro (by simp [sample]) (by simpa [LayoutNode.Ordered, sample] using inner)
  outline := by
    have first : Section.IsSized ⟨1, none, "Loans"⟩ := ⟨by decide, by decide⟩
    have second : Section.IsSized ⟨2, some 4294967295, ""⟩ := ⟨by decide, by decide⟩
    simpa [sample] using ⟨first, second⟩

theorem sample_reads_back :
    sample.IsSized ∧ sample.layout.depth = 3 ∧ (parse sample.toJson.pretty).bind ofJson? = some sample :=
  have depth : sample.layout.depth = 3 := by decide
  ⟨isSized_sample, depth, isSized_sample.reads_back.2.1 (by rw [depth]; decide)⟩

end Specification

end Plumbline
