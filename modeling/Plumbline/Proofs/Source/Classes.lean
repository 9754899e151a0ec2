import Plumbline.Proofs.Text.Lines
import Plumbline.Source.Classes

namespace Plumbline.Source

open Plumbline.Text

/-- Whether a line lies inside a class: it is empty or begins with white space. -/
def isIndented (line : List Char) : Bool := line.isEmpty || startsBlank line

/-- Lines as the body of a class keeps them. -/
def bodyText (rows : List (List Char)) : String := String.ofList (rows.flatMap (· ++ ['\n']))

@[simp] theorem bodyText_nil : bodyText [] = "" := rfl

theorem append_bodyText_cons (body : String) (line : List Char) (rows : List (List Char)) :
    body ++ bodyText (line :: rows) = body ++ String.ofList line ++ "\n" ++ bodyText rows := by
  apply String.toList_injective
  simp [bodyText, String.toList_append]

/-- The classes that some lines open. The body of a class is made of the indented lines right behind its header. -/
def classesAmong : List (List Char) → List Class
  | [] => []
  | line :: rest => match classHeader? line with
    | some (name, bases) =>
      ⟨String.ofList name, String.ofList (bases.getD []), bodyText (rest.takeWhile isIndented)⟩ :: classesAmong rest
    | none => classesAmong rest

theorem not_isIndented_of_header {line : List Char} {header : List Char × Option (List Char)}
    (opens : classHeader? line = some header) : isIndented line = false := by
  simp only [classHeader?, Option.bind_eq_bind, Option.bind_eq_some_iff] at opens
  obtain ⟨rest, keyword, _⟩ := opens
  rw [after?_eq_some_iff.mp keyword]
  rfl

/-- A scan leaves the classes behind it as they are, and adds the indented lines in front to the open one. -/
theorem foldl_step_found (rows : List (List Char)) :
    (∀ found, (rows.foldl ClassScan.step ⟨found, false⟩).found = (classesAmong rows).reverse ++ found) ∧
      ∀ last before, (rows.foldl ClassScan.step ⟨last :: before, true⟩).found =
        (classesAmong rows).reverse ++
          { last with body := last.body ++ bodyText (rows.takeWhile isIndented) } :: before := by
  induction rows with
  | nil => simp [classesAmong]
  | cons line rest ih =>
    obtain ⟨closed, opened⟩ := ih
    cases header : classHeader? line with
    | some found =>
      -- A header stands at the margin, so that it also ends the body above it.
      have margin := not_isIndented_of_header header
      simp [ClassScan.step, header, classesAmong, opened, margin]
    | none =>
      cases indented : isIndented line with
      | true =>
        have stays : (!line.isEmpty && !startsBlank line) = false := by
          rw [← Bool.not_or]
          exact congrArg not indented
        simp [ClassScan.step, header, classesAmong, closed, opened, stays, indented, append_bodyText_cons]
      | false =>
        have ends : (!line.isEmpty && !startsBlank line) = true := by
          rw [← Bool.not_or]
          exact congrArg not indented
        simp [ClassScan.step, header, classesAmong, closed, ends, indented]

theorem classes_eq_classesAmong (text : String) : classes text = classesAmong (lines text.toList) := by
  rw [classes, ClassScan.start, (foldl_step_found _).1, List.append_nil, List.reverse_reverse]

theorem map_name_classesAmong (rows : List (List Char)) :
    (classesAmong rows).map Class.name = (rows.filterMap classHeader?).map fun header => String.ofList header.1 := by
  induction rows with
  | nil => rfl
  | cons line rest ih => cases header : classHeader? line <;> simp [classesAmong, header, ih]

/-- Whether a line opens a class of this name. -/
def opensClass (name line : List Char) : Bool := (classHeader? line).any (·.1 == name)

/-- The lines behind the header of the first class of this name. -/
def linesBelow (name : List Char) (rows : List (List Char)) : List (List Char) :=
  (rows.dropWhile (!opensClass name ·)).tail

section Header

variable {before after : List (List Char)} {header name : List Char} {bases : Option (List Char)}

theorem opensClass_of_header (opens : classHeader? header = some (name, bases)) : opensClass name header = true := by
  simp [opensClass, opens]

theorem linesBelow_eq (first : ∀ line ∈ before, opensClass name line = false)
    (opens : classHeader? header = some (name, bases)) : linesBelow name (before ++ header :: after) = after := by
  have skipped : ∀ line ∈ before, (!opensClass name line) = true := fun line member => congrArg not (first line member)
  rw [linesBelow, List.dropWhile_append_of_pos skipped, List.dropWhile_cons_of_neg]
  · rfl
  · simp [opensClass_of_header opens]

theorem find?_classesAmong (first : ∀ line ∈ before, opensClass name line = false)
    (opens : classHeader? header = some (name, bases)) :
    (classesAmong (before ++ header :: after)).find? (·.name == String.ofList name) =
      some ⟨String.ofList name, String.ofList (bases.getD []), bodyText (after.takeWhile isIndented)⟩ := by
  induction before with
  | nil => simp [classesAmong, opens]
  | cons line before ih =>
    obtain ⟨here, first⟩ := List.forall_mem_cons.mp first
    rw [List.cons_append, classesAmong]
    cases other : classHeader? line with
    | none => exact ih first
    | some found =>
      have differs : found.1 ≠ name := by simpa [opensClass, other] using here
      simpa [String.ofList_inj, differs] using ih first

/-- Where names do not repeat, no line in front of a header opens a class of its name. -/
theorem first_of_nodup (distinct : ((classesAmong (before ++ header :: after)).map Class.name).Nodup)
    (opens : classHeader? header = some (name, bases)) : ∀ line ∈ before, opensClass name line = false := by
  intro line member
  by_contra other
  obtain ⟨found, opensToo, same⟩ := (Option.any_eq_true _ _).mp (Bool.of_not_eq_false other)
  rw [map_name_classesAmong, List.filterMap_append, List.filterMap_cons_some opens, List.map_append] at distinct
  refine (List.nodup_append.mp distinct).2.2 (String.ofList found.1) ?_ (String.ofList name) ?_ ?_
  · exact List.mem_map_of_mem (List.mem_filterMap.mpr ⟨line, member, opensToo⟩)
  · exact List.mem_cons_self
  · rw [eq_of_beq same]

end Header

/-- A class declares a field where a line of its body assigns to it. -/
theorem declaresField_bodyText {rows : List (List Char)} {margin field gap more : List Char}
    (noFeed : ∀ line ∈ rows, '\n' ∉ line) (assigned : margin ++ (field ++ (gap ++ '=' :: more)) ∈ rows)
    (blankMargin : ∀ c ∈ margin, isBlank c = true) (solid : ∀ c ∈ field.head?, isBlank c = false)
    (nonempty : field ≠ []) (blankGap : ∀ c ∈ gap, isBlank c = true) :
    declaresField (bodyText rows) (String.ofList field) = true := by
  have kept : withoutReturn (margin ++ (field ++ (gap ++ '=' :: more))) =
      margin ++ (field ++ (gap ++ '=' :: withoutReturn more)) := by
    have cut := withoutReturn_append_cons (by decide : '=' ≠ '\r') (margin ++ field ++ gap) more
    simpa only [List.append_assoc] using cut
  have start : trimStart (field ++ (gap ++ '=' :: withoutReturn more)) = field ++ (gap ++ '=' :: withoutReturn more) := by
    obtain ⟨c, field, rfl⟩ := List.exists_cons_of_ne_nil nonempty
    exact trimStart_cons (solid c rfl) _
  have equals : trimStart (gap ++ '=' :: withoutReturn more) = '=' :: withoutReturn more :=
    (trimStart_append blankGap _).trans (trimStart_cons (by decide) _)
  rw [declaresField, bodyText, String.toList_ofList, lines_flatMap_feed noFeed, List.any_map, List.any_eq_true]
  refine ⟨_, assigned, ?_⟩
  rw [Function.comp_apply, kept, trimStart_append blankMargin, start, String.toList_ofList, after?_append]
  simp only [equals]

/-- Where a class stands among the lines of a text: the number of its header, counted from nought, and how many lines of
body come behind it. -/
structure Extent where
  header : Nat
  size : Nat
deriving DecidableEq, Repr

/-- The numbers of the lines that open a class, in increasing order. -/
def headerNumbers (rows : List (List Char)) : List Nat :=
  (List.range rows.length).filter fun i => (rows[i]?.bind classHeader?).isSome

namespace Extent

/-- Whether the line of a number belongs to the class, be it the header or a line of the body. -/
def Holds (extent : Extent) (i : Nat) : Prop := extent.header ≤ i ∧ i ≤ extent.header + extent.size

/-- The lines of the body. -/
def body (rows : List (List Char)) (extent : Extent) : List (List Char) :=
  (rows.drop (extent.header + 1)).take extent.size

/-- The class that the lines declare. -/
def class? (rows : List (List Char)) (extent : Extent) : Option Class :=
  (rows[extent.header]?.bind classHeader?).map fun header =>
    ⟨String.ofList header.1, String.ofList (header.2.getD []), bodyText (extent.body rows)⟩

/-- Whether all the lines that should be the body are there and indented. -/
def IsRun (rows : List (List Char)) (extent : Extent) : Prop :=
  ∀ k < extent.size, ∃ line ∈ rows[extent.header + 1 + k]?, isIndented line = true

/-- Whether the body is a run of indented lines, and no longer run begins behind the header. -/
def IsLongest (rows : List (List Char)) (extent : Extent) : Prop :=
  extent.IsRun rows ∧ ∀ size, IsRun rows ⟨extent.header, size⟩ → size ≤ extent.size

/-- The extent of the class whose header has a number. -/
def ofHeader (rows : List (List Char)) (i : Nat) : Extent := ⟨i, ((rows.drop (i + 1)).takeWhile isIndented).length⟩

end Extent

/-- What it means that extents divide the lines of a text among its classes: there is one for each header, in order, its
body is as long as can be, no line belongs to two of them, and none from a line at the margin on belongs to a class whose
header is above that line. -/
structure Divides (rows : List (List Char)) (extents : List Extent) : Prop where
  headers : extents.map Extent.header = headerNumbers rows
  longest : ∀ extent ∈ extents, extent.IsLongest rows
  apart : extents.Pairwise fun a b => ∀ i, a.Holds i → ¬b.Holds i
  closed : ∀ extent ∈ extents, ∀ i, extent.header < i → (∀ line ∈ rows[i]?, isIndented line = false) →
    ∀ j, i ≤ j → ¬extent.Holds j

theorem isHeader_of_mem_headerNumbers {rows : List (List Char)} {i : Nat} (member : i ∈ headerNumbers rows) :
    ∃ line header, rows[i]? = some line ∧ classHeader? line = some header := by
  obtain ⟨header, opens⟩ := Option.isSome_iff_exists.mp (List.mem_filter.mp member).2
  obtain ⟨line, atNumber, opens⟩ := Option.bind_eq_some_iff.mp opens
  exact ⟨line, header, atNumber, opens⟩

theorem headerNumbers_increasing (rows : List (List Char)) : (headerNumbers rows).Pairwise (· < ·) :=
  List.pairwise_lt_range.filter _

theorem headerNumbers_cons (line : List Char) (rest : List (List Char)) :
    headerNumbers (line :: rest) =
      (if (classHeader? line).isSome then [0] else []) ++ (headerNumbers rest).map Nat.succ := by
  have later : (fun i => ((line :: rest)[i]?.bind classHeader?).isSome) ∘ Nat.succ =
      fun i => (rest[i]?.bind classHeader?).isSome := rfl
  rw [headerNumbers, List.length_cons, List.range_succ_eq_map, List.filter_cons, List.filter_map, later]
  cases header : classHeader? line <;> simp [header, headerNumbers]

namespace Extent

variable {rows : List (List Char)} {extent : Extent}

theorem isRun_iff {i n : Nat} : IsRun rows ⟨i, n⟩ ↔ n ≤ (ofHeader rows i).size := by
  simp only [IsRun, ofHeader, le_length_takeWhile_iff, List.getElem?_drop]

theorem isLongest_ofHeader (rows : List (List Char)) (i : Nat) : (ofHeader rows i).IsLongest rows :=
  ⟨isRun_iff.mpr le_rfl, fun _ run => isRun_iff.mp run⟩

/-- A run ends in front of the next line at the margin. -/
theorem IsRun.lt_of_margin (run : extent.IsRun rows) {i : Nat} (above : extent.header < i)
    (margin : ∀ line ∈ rows[i]?, isIndented line = false) : extent.header + extent.size < i := by
  by_contra within
  obtain ⟨line, atNumber, indented⟩ := run (i - (extent.header + 1)) (by omega)
  rw [Nat.add_sub_cancel' (by omega : extent.header + 1 ≤ i)] at atNumber
  exact absurd indented (by rw [margin line atNumber]; decide)

theorem class?_ofHeader (rows : List (List Char)) (i : Nat) :
    (ofHeader rows i).class? rows = (rows[i]?.bind classHeader?).map fun header =>
      ⟨String.ofList header.1, String.ofList (header.2.getD []), bodyText ((rows.drop (i + 1)).takeWhile isIndented)⟩ := by
  have whole : (ofHeader rows i).body rows = (rows.drop (i + 1)).takeWhile isIndented :=
    (List.prefix_iff_eq_take.mp (List.takeWhile_prefix isIndented)).symm
  rw [class?, whole, ofHeader]

end Extent

/-- There is one class for each header, in order. -/
theorem map_some_classesAmong (rows : List (List Char)) :
    (classesAmong rows).map some = (headerNumbers rows).map fun i => (Extent.ofHeader rows i).class? rows := by
  induction rows with
  | nil => rfl
  | cons line rest ih =>
    have later : (fun i => (Extent.ofHeader (line :: rest) i).class? (line :: rest)) ∘ Nat.succ =
        fun i => (Extent.ofHeader rest i).class? rest := rfl
    rw [headerNumbers_cons, List.map_append, List.map_map, later, ← ih]
    cases header : classHeader? line with
    | none => simp [classesAmong, header]
    | some found => simp [classesAmong, header, Extent.class?_ofHeader]

theorem divides_ofHeader (rows : List (List Char)) : Divides rows ((headerNumbers rows).map (Extent.ofHeader rows)) where
  headers := by
    rw [List.map_map]
    exact List.map_id _
  longest := List.forall_mem_map.mpr fun i _ => Extent.isLongest_ofHeader rows i
  apart := by
    refine List.pairwise_map.mpr ((headerNumbers_increasing rows).imp_of_mem fun {a b} _ isHeader above => ?_)
    obtain ⟨line, header, atNumber, opens⟩ := isHeader_of_mem_headerNumbers isHeader
    -- The second header stands at the margin and so ends the body in front of it.
    have ends := (Extent.isLongest_ofHeader rows a).1.lt_of_margin above fun other there => by
      rw [Option.some.inj (there.symm.trans atNumber)]
      exact not_isIndented_of_header opens
    intro i inFirst inSecond
    exact absurd (inSecond.1.trans inFirst.2) (Nat.not_le.mpr ends)
  closed := List.forall_mem_map.mpr fun i _ k below margin j behind holds => by
    have ends := (Extent.isLongest_ofHeader rows i).1.lt_of_margin below margin
    exact absurd (behind.trans holds.2) (Nat.not_le.mpr ends)

/-- The classes of a text divide its lines: there is one for each header line, in line order, and each is what the header
and the longest run of indented lines right behind it declare. -/
theorem classes_divide_lines (text : String) : ∃ extents, Divides (lines text.toList) extents ∧
    (classes text).map some = extents.map (Extent.class? (lines text.toList)) := by
  refine ⟨_, divides_ofHeader (lines text.toList), ?_⟩
  rw [classes_eq_classesAmong, map_some_classesAmong, List.map_map]
  rfl

example : classes "class A(B):\n  x = 1\n\ny = 2\n  z = 3\nclass C:\nclass D:\n  w = 4" =
    [⟨"A", "B", "  x = 1\n\n"⟩, ⟨"C", "", ""⟩, ⟨"D", "", "  w = 4\n"⟩] := by decide +kernel

/-- A line at the margin separates what stands above it from what stands below. -/
theorem classesAmong_append (above : List (List Char)) {line : List Char} (margin : isIndented line = false)
    (below : List (List Char)) :
    classesAmong (above ++ line :: below) = classesAmong above ++ classesAmong (line :: below) := by
  induction above with
  | nil => rfl
  | cons row above ih =>
    rw [List.cons_append, classesAmong, classesAmong, ih]
    cases header : classHeader? row with
    | none => rfl
    | some found => simp [takeWhile_append_cons margin]

/-- Texts one behind the other have the classes of both, if the second begins on a line of its own and at the margin. -/
theorem classes_append {above below : String} (complete : atLineStart above.toList.getLast? = true)
    (margin : ∀ line ∈ (lines below.toList).head?, isIndented line = false) :
    classes (above ++ below) = classes above ++ classes below := by
  simp only [classes_eq_classesAmong, String.toList_append, lines_append complete]
  cases rows : lines below.toList with
  | nil => simp [classesAmong]
  | cons line rest => exact classesAmong_append _ (margin line (by rw [rows]; rfl)) rest

end Plumbline.Source
