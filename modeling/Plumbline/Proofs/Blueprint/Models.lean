import Plumbline.Blueprint.Model
import Plumbline.Proofs.Distinct
import Plumbline.Proofs.Source.Classes
import Plumbline.Proofs.Text.Class
import Plumbline.Proofs.Text.Search

namespace Plumbline

namespace Model

open Text Source

/-- Whether a line belongs to the class above it: it is neither a header with a base list nor a comment at the margin. -/
def staysOpen (line : List Char) : Bool :=
  ((classHeader? line).bind Prod.snd).isNone && line.head? != some '#'

/-- The classes with a base list that some lines open. Each goes on for as long as lines belong to it. -/
def classesAmong : List (List Char) → List OpenClass
  | [] => []
  | line :: rest => match classHeader? line with
    | some (name, some bases) => ⟨name, bases, (rest.takeWhile staysOpen).reverse⟩ :: classesAmong rest
    | _ => classesAmong rest

section Lines

variable {line name bases : List Char}

theorem classesAmong_cons_of_header (opens : classHeader? line = some (name, some bases)) (rest : List (List Char)) :
    classesAmong (line :: rest) = ⟨name, bases, (rest.takeWhile staysOpen).reverse⟩ :: classesAmong rest := by
  simp [classesAmong, opens]

theorem classesAmong_cons_of_no_header (plain : (classHeader? line).bind Prod.snd = none)
    (rest : List (List Char)) : classesAmong (line :: rest) = classesAmong rest := by
  rw [classesAmong]
  split
  · rename_i opens
    simp [opens] at plain
  · rfl

theorem step_of_header (opens : classHeader? line = some (name, some bases)) (scan : Scan) :
    scan.step line = { scan.flush with current := some ⟨name, bases, []⟩ } := by
  simp only [Scan.step, opens]

theorem step_of_no_header (plain : (classHeader? line).bind Prod.snd = none) (scan : Scan) :
    scan.step line =
      if line.head? = some '#' then scan.flush
      else { scan with current := scan.current.map fun found => { found with lines := line :: found.lines } } := by
  rw [Scan.step]
  split
  · rename_i opens
    simp [opens] at plain
  · rfl

end Lines

theorem flush_found (scan : Scan) :
    scan.flush.found = (scan.current.toList.filterMap OpenClass.model?).foldl put scan.found := by
  unfold Scan.flush
  cases scan.current with
  | none => rfl
  | some open' => cases model : open'.model? <;> simp [model]

/-- The class that is open after some more lines. -/
def OpenClass.extend (open' : OpenClass) (rows : List (List Char)) : OpenClass :=
  { open' with lines := (rows.takeWhile staysOpen).reverse ++ open'.lines }

/-- A scan puts the models of the open class and of the classes in front behind those it has found. -/
theorem foldl_step_flush (rows : List (List Char)) (scan : Scan) :
    (rows.foldl Scan.step scan).flush.found =
      (((scan.current.map (·.extend rows)).toList ++ classesAmong rows).filterMap OpenClass.model?).foldl put
        scan.found := by
  induction rows generalizing scan with
  | nil =>
    rw [List.foldl_nil, flush_found]
    cases scan.current <;> simp [classesAmong, OpenClass.extend]
  | cons line rest ih =>
    have ended : staysOpen line = false → scan.current.map (·.extend (line :: rest)) = scan.current := by
      intro ends
      cases scan.current <;> simp [OpenClass.extend, ends]
    rw [List.foldl_cons, ih]
    cases header : (classHeader? line).bind Prod.snd with
    | some bases =>
      obtain ⟨⟨name, _⟩, opens, rfl⟩ := Option.bind_eq_some_iff.mp header
      have ends : staysOpen line = false := by simp [staysOpen, opens]
      rw [step_of_header opens, classesAmong_cons_of_header opens, ended ends, flush_found, ← List.foldl_append,
        ← List.filterMap_append]
      simp [OpenClass.extend]
    | none =>
      rw [step_of_no_header header, classesAmong_cons_of_no_header header]
      by_cases comment : line.head? = some '#'
      · have ends : staysOpen line = false := by simp [staysOpen, comment]
        rw [if_pos comment, ended ends, flush_found, ← List.foldl_append, ← List.filterMap_append]
        rfl
      · have stays : staysOpen line = true := by simp [staysOpen, header, comment]
        rw [if_neg comment]
        simp [OpenClass.extend, stays, Function.comp_def]

/-- The models of a piece of code are those of its classes, put one after another. -/
theorem inCode_eq (code : String) :
    inCode code = ((classesAmong (lines code.toList)).filterMap OpenClass.model?).foldl put [] :=
  foldl_step_flush (lines code.toList) ⟨[], none⟩

theorem mem_put {models : List Model} {model new : Model} (member : model ∈ put models new) :
    model ∈ models ∨ model = new := by
  unfold put at member
  split at member
  · obtain ⟨other, present, same⟩ := List.mem_map.mp member
    split at same
    · exact .inr same.symm
    · exact .inl (same ▸ present)
  · simpa using member

theorem mem_foldl_put {models new : List Model} {model : Model} (member : model ∈ new.foldl put models) :
    model ∈ models ∨ model ∈ new := by
  induction new generalizing models with
  | nil => exact .inl member
  | cons first rest ih =>
    rcases ih member with present | later
    · rcases mem_put present with old | rfl
      · exact .inl old
      · exact .inr List.mem_cons_self
    · exact .inr (List.mem_cons_of_mem first later)

theorem exists_header_of_mem_classesAmong {rows : List (List Char)} {found : OpenClass}
    (member : found ∈ classesAmong rows) :
    ∃ before header after, rows = before ++ header :: after ∧
      classHeader? header = some (found.name, some found.bases) ∧
      found.lines.reverse = after.takeWhile staysOpen := by
  induction rows with
  | nil => exact absurd member List.not_mem_nil
  | cons line rest ih =>
    unfold classesAmong at member
    split at member
    · rename_i name bases opens
      rcases List.mem_cons.mp member with rfl | later
      · exact ⟨[], line, rest, rfl, opens, List.reverse_reverse _⟩
      · obtain ⟨before, header, after, rfl, opens, body⟩ := ih later
        exact ⟨line :: before, header, after, rfl, opens, body⟩
    · obtain ⟨before, header, after, rfl, opens, body⟩ := ih member
      exact ⟨line :: before, header, after, rfl, opens, body⟩

/-- What a field declaration begins with: blanks, a word, and an equals sign as the next character that is not blank. -/
theorem readDeclaration_eq_some {before : Option Char} {s rest : List Char} {declaration : Declaration}
    (reads : readDeclaration before s = some (declaration, rest)) :
    atLineStart before = true ∧ rest <:+ s ∧ ∃ margin field after,
      s = margin ++ (field ++ after) ∧ declaration.field = String.ofList field ∧
      (∀ c ∈ margin, c = ' ' ∨ c = '\t') ∧ field ≠ [] ∧ (∀ c ∈ field, isWord c = true) ∧
      (trimStart after).head? = some '=' := by
  unfold readDeclaration at reads
  split at reads
  · contradiction
  · rename_i start
    simp only [Option.bind_eq_bind, Option.bind_eq_some_iff, Prod.exists] at reads
    obtain ⟨field, after, word, behindEquals, equals, behindModels, models, constructor, behind, name, inside, open',
      result⟩ := reads
    obtain ⟨rfl, rfl⟩ := Prod.mk.inj (Option.some.inj result)
    obtain ⟨split, nonempty, satisfied⟩ := some?_eq_some word
    have margin := s.takeWhile_append_dropWhile (p := fun c => c == ' ' || c == '\t')
    refine ⟨by simpa using start, ?_, s.takeWhile fun c => c == ' ' || c == '\t', field, after, ?_, rfl, ?_, nonempty,
      satisfied, ?_⟩
    · have toArguments : inside <:+ behind := (suffix_of_after? open').trans (List.dropWhile_suffix _)
      have toConstructor : behindModels <:+ behindEquals := (suffix_of_after? models).trans (List.dropWhile_suffix _)
      have toModels : behindEquals <:+ after := (suffix_of_after? equals).trans (List.dropWhile_suffix _)
      have toEquals : after <:+ s := (suffix_of_some? word).trans (List.dropWhile_suffix _)
      have toEnd : inside.dropWhile (· != ')') <:+ behindModels :=
        (List.dropWhile_suffix _).trans (toArguments.trans (suffix_of_some? name))
      exact toEnd.trans (toConstructor.trans (toModels.trans toEquals))
    · rw [← split, margin]
    · intro c member
      simpa using List.mem_takeWhile_imp member
    · rw [after?_eq_some_iff.mp equals]
      rfl

theorem leavesEnd_readDeclaration : Reader.LeavesEnd readDeclaration := fun reads => (readDeclaration_eq_some reads).2.1

theorem foldl_addField_eq (declarations : List Declaration) (model : Model) :
    (declarations.foldl addField model).name = model.name ∧ (declarations.foldl addField model).bases = model.bases := by
  induction declarations generalizing model with
  | nil => exact ⟨rfl, rfl⟩
  | cons declaration rest ih => exact ih (model.addField declaration)

theorem mem_fields_foldl_addField {declarations : List Declaration} {model : Model} {field : String} :
    field ∈ (declarations.foldl addField model).fields ↔
      field ∈ model.fields ∨ ∃ declaration ∈ declarations, declaration.field = field := by
  induction declarations generalizing model with
  | nil => simp
  | cons declaration rest ih =>
    rw [List.foldl_cons, ih, addField, Distinct.mem_add, or_assoc]
    simp [eq_comm (a := field)]

/-- The fields of a model are those that its body declares. -/
theorem mem_fields_ofClass {name bases body field : String} :
    field ∈ (ofClass name bases body).fields ↔
      ∃ declaration ∈ findAll readDeclaration none body.toList, declaration.field = field := by
  rw [ofClass, mem_fields_foldl_addField]
  simp [Model.empty]

/-- Where no line begins with an equals sign, every field of a model is assigned to on a line of its body. -/
theorem declaresField_of_mem_fields {name bases field : String} {rows : List (List Char)}
    (noFeed : ∀ line ∈ rows, '\n' ∉ line) (noEquals : ∀ line ∈ rows, (trimStart line).head? ≠ some '=')
    (member : field ∈ (ofClass name bases (String.ofList (['\n'].intercalate rows))).fields) :
    declaresField (bodyText rows) field = true := by
  obtain ⟨declaration, found, rfl⟩ := mem_fields_ofClass.mp member
  rw [String.toList_ofList] at found
  obtain ⟨lead, tail, rest, split, reads⟩ := mem_findAll leavesEnd_readDeclaration found
  rw [Option.or_none] at reads
  obtain ⟨start, _, margin, word, after, rfl, name, blankMargin, nonempty, solid, equals⟩ := readDeclaration_eq_some reads
  obtain ⟨before, row, others, rfl, begins⟩ :=
    exists_row_of_intercalate_eq_append noFeed split start (by simp [nonempty])
  have inRow : '\n' ∉ margin ++ word := by
    intro feed
    rcases List.mem_append.mp feed with inMargin | inWord
    · exact absurd (blankMargin _ inMargin) (by decide)
    · exact absurd (solid _ inWord) (by decide)
  obtain ⟨row', rfl, rfl⟩ :=
    exists_rest_of_intercalate_eq_append inRow (begins.symm.trans (List.append_assoc _ _ _).symm)
  -- The equals sign may stand on a later line than the name, which then begins with it.
  obtain ⟨line, among, first⟩ := exists_row_of_head_trimStart equals
  have here : (trimStart row').head? = some '=' := by
    rcases List.mem_cons.mp among with rfl | later
    · exact first
    · exact absurd first (noEquals line (List.mem_append_right before (List.mem_cons_of_mem _ later)))
  obtain ⟨more, assigns⟩ : ∃ more, trimStart row' = '=' :: more := List.head?_eq_some_iff.mp here
  have halves : row'.takeWhile isBlank ++ '=' :: more = row' := assigns ▸ List.takeWhile_append_dropWhile
  have assigned : margin ++ (word ++ (row'.takeWhile isBlank ++ '=' :: more)) ∈
      before ++ (margin ++ word ++ row') :: others := by
    rw [halves, ← List.append_assoc]
    exact List.mem_append_right before List.mem_cons_self
  rw [name]
  refine declaresField_bodyText noFeed assigned ?_ ?_ nonempty fun c member => List.mem_takeWhile_imp member
  · intro c member
    rcases blankMargin c member with rfl | rfl <;> decide
  · intro c first
    by_contra blank
    have other := not_isWord_of_isBlank (Bool.of_not_eq_false blank)
    exact absurd (solid c (List.mem_of_mem_head? first)) (by simp [other])

theorem ofClass_name (name bases body : String) : (ofClass name bases body).name = name := (foldl_addField_eq ..).1

theorem ofClass_bases (name bases body : String) : (ofClass name bases body).bases = bases := (foldl_addField_eq ..).2

/-- A model comes from a header with a base list and the lines that stay with it. -/
theorem exists_header_of_mem_inCode {code : String} {model : Model} (member : model ∈ inCode code) :
    ∃ before header after name bases, lines code.toList = before ++ header :: after ∧
      classHeader? header = some (name, some bases) ∧
      model = ofClass (String.ofList name) (String.ofList bases)
        (String.ofList (['\n'].intercalate (after.takeWhile staysOpen))) := by
  rw [inCode_eq] at member
  rcases mem_foldl_put member with none | found
  · exact absurd none List.not_mem_nil
  · obtain ⟨class', among, made⟩ := List.mem_filterMap.mp found
    obtain ⟨before, header, after, split, opens, body⟩ := exists_header_of_mem_classesAmong among
    simp only [OpenClass.model?, body, Option.ite_none_right_eq_some, Option.some.injEq] at made
    exact ⟨before, header, after, class'.name, class'.bases, split, opens, made.2.symm⟩

/-- Where the names of classes do not repeat, a model is a class of the text, and its fields are declared in the lines
that stay with its header. -/
theorem class_of_mem_inCode {code : String} {model : Model} (distinct : ((classes code).map Class.name).Nodup)
    (member : model ∈ inCode code) :
    (classes code).find? (·.name == model.name) =
        some ⟨model.name, model.bases,
          bodyText ((linesBelow model.name.toList (lines code.toList)).takeWhile isIndented)⟩ ∧
      ((∀ line ∈ (linesBelow model.name.toList (lines code.toList)).takeWhile staysOpen,
          (trimStart line).head? ≠ some '=') →
        ∀ field ∈ model.fields,
          declaresField (bodyText ((linesBelow model.name.toList (lines code.toList)).takeWhile staysOpen)) field) := by
  obtain ⟨before, header, after, name, bases, split, opens, rfl⟩ := exists_header_of_mem_inCode member
  rw [classes_eq_classesAmong, split] at distinct
  have first := first_of_nodup distinct opens
  rw [ofClass_name, ofClass_bases, classes_eq_classesAmong, split, String.toList_ofList, linesBelow_eq first opens]
  refine ⟨find?_classesAmong first opens, fun noEquals field declared => ?_⟩
  refine declaresField_of_mem_fields (fun line stays => ?_) noEquals declared
  have inText : line ∈ lines code.toList := by
    rw [split]
    exact List.mem_append_right before (List.mem_cons_of_mem header (List.takeWhile_subset _ stays))
  exact not_feed_mem_of_mem_lines inText

end Model

end Plumbline
