import Plumbline.Files.Path
import Plumbline.Proofs.Files.Node
import Plumbline.Proofs.Text.Search

namespace Plumbline.Path

/-- Where one piece of a path leads from a place, whatever stands there. -/
def turn (place : List String) (piece : String) : List String :=
  if piece = "" || piece = "." then place else if piece = ".." then place.dropLast else place ++ [piece]

/-- The places that pieces of a path lead through, the one they begin at and the one they lead to included. -/
def places (place : List String) (pieces : List String) : List (List String) := pieces.scanl turn place

section Places

variable {place : List String}

theorem mem_places_self (place : List String) (pieces : List String) : place ∈ places place pieces := by
  cases pieces with
  | nil => exact List.mem_singleton.mpr rfl
  | cons piece rest =>
    rw [places, List.scanl_cons]
    exact List.mem_cons_self

theorem places_cons (place : List String) (piece : String) (pieces : List String) :
    places place (piece :: pieces) = place :: places (turn place piece) pieces := List.scanl_cons

theorem mem_places_append {first second : List String} {visited : List String} :
    visited ∈ places place (first ++ second) ↔
      visited ∈ places place first ∨ visited ∈ places (first.foldl turn place) second := by
  induction first generalizing place with
  | nil =>
    refine ⟨Or.inr, fun member => member.elim (fun start => ?_) id⟩
    rw [List.mem_singleton.mp start]
    exact mem_places_self place second
  | cons piece first ih => rw [List.cons_append, places_cons, places_cons, List.mem_cons, List.mem_cons, ih, or_assoc,
      List.foldl_cons]

theorem foldl_turn_mem_places (pieces : List String) : pieces.foldl turn place ∈ places place pieces := by
  induction pieces generalizing place with
  | nil => exact mem_places_self place []
  | cons piece pieces ih =>
    rw [places_cons]
    exact List.mem_cons_of_mem _ ih

/-- Without two dots a path only leads further down. -/
theorem prefix_of_mem_places {pieces : List String} (level : ".." ∉ pieces) {visited : List String}
    (member : visited ∈ places place pieces) : place <+: visited := by
  induction pieces generalizing place with
  | nil =>
    cases List.mem_singleton.mp member
    exact List.prefix_rfl
  | cons piece pieces ih =>
    obtain ⟨here, level⟩ := not_or.mp (mt List.mem_cons.mpr level)
    have down : place <+: turn place piece := by
      rw [turn, if_neg (Ne.symm here)]
      split
      · exact List.prefix_rfl
      · exact List.prefix_append place [piece]
    rw [places_cons] at member
    rcases List.mem_cons.mp member with rfl | later
    · exact List.prefix_rfl
    · exact down.trans (ih level later)

end Places

section Pieces

/-- A slash divides the pieces of a path. -/
theorem pieces_append_slash (lead path : String) : pieces (lead ++ "/" ++ path) = pieces lead ++ pieces path := by
  have whole : (lead ++ "/" ++ path).toList = lead.toList ++ '/' :: path.toList := by simp
  rw [pieces, whole, Text.split_append _ _ rfl, List.map_append]
  rfl

theorem pieces_ne_nil (path : String) : pieces path ≠ [] := by
  rw [pieces, ne_eq, List.map_eq_nil_iff]
  exact Text.split_ne_nil _

theorem pieces_of_slashless {name : String} (slashless : '/' ∉ name.toList) : pieces name = [name] := by
  have none : ∀ c ∈ name.toList, (c == '/') = false := by
    intro c member
    exact beq_eq_false_iff_ne.mpr fun slash => slashless (slash ▸ member)
  rw [pieces, Text.split_of_none none, List.map_singleton, String.ofList_toList]

theorem ofSteps_cons {name : String} {names : List String} (nonempty : names ≠ []) :
    ofSteps (name :: names) = name ++ "/" ++ ofSteps names := by
  obtain ⟨next, rest, rfl⟩ := List.exists_cons_of_ne_nil nonempty
  exact String.intercalate_cons_cons

theorem pieces_ofSteps_eq_flatMap {names : List String} (nonempty : names ≠ []) :
    pieces (ofSteps names) = names.flatMap pieces := by
  induction names with
  | nil => exact absurd rfl nonempty
  | cons name names ih =>
    by_cases last : names = []
    · rw [last, ofSteps, String.intercalate_singleton, List.flatMap_singleton]
    · rw [ofSteps_cons last, pieces_append_slash, ih last, List.flatMap_cons]

theorem flatMap_pieces {names : List String} (slashless : ∀ name ∈ names, '/' ∉ name.toList) :
    names.flatMap pieces = names := by
  induction names with
  | nil => rfl
  | cons name names ih =>
    obtain ⟨here, below⟩ := List.forall_mem_cons.mp slashless
    rw [List.flatMap_cons, pieces_of_slashless here, ih below, List.singleton_append]

theorem pieces_ofSteps {names : List String} (nonempty : names ≠ []) (named : ∀ name ∈ names, IsName name) :
    pieces (ofSteps names) = names := by
  rw [pieces_ofSteps_eq_flatMap nonempty, flatMap_pieces fun name member => (named name member).2.2.2]

theorem ofSteps_append_cons (lead name : String) (names : List String) :
    ofSteps ((lead ++ name) :: names) = lead ++ ofSteps (name :: names) := by
  by_cases last : names = []
  · rw [last, ofSteps, ofSteps, String.intercalate_singleton, String.intercalate_singleton]
  · rw [ofSteps_cons last, ofSteps_cons last, String.append_assoc, String.append_assoc, String.append_assoc]

/-- The pieces of a path put together again are the path. -/
theorem ofSteps_pieces (path : String) : ofSteps (pieces path) = path := by
  have rebuilt (s : List Char) : ofSteps ((Text.split (· == '/') s).map String.ofList) = String.ofList s := by
    induction s with
    | nil => rw [Text.split, List.map_singleton, ofSteps, String.intercalate_singleton]
    | cons c s ih =>
      have some : Text.split (· == '/') s ≠ [] := Text.split_ne_nil s
      obtain ⟨piece, pieces, halves⟩ := List.exists_cons_of_ne_nil some
      have first : String.ofList (c :: s) = String.ofList [c] ++ String.ofList s := by
        rw [← String.ofList_append, List.singleton_append]
      rw [first, ← ih, Text.split]
      split
      · rename_i slash
        have nonempty : (Text.split (· == '/') s).map String.ofList ≠ [] := by simp [halves]
        rw [List.map_cons, ofSteps_cons nonempty, beq_iff_eq.mp slash]
        rfl
      · rw [halves, List.map_cons, List.map_cons, ← ofSteps_append_cons, ← String.ofList_append, List.singleton_append]
  rw [pieces, rebuilt, String.ofList_toList]

theorem pieces_injective {path path' : String} (same : pieces path = pieces path') : path = path' := by
  rw [← ofSteps_pieces path, same, ofSteps_pieces]

/-- Paths of names are told apart by the names. -/
theorem ofSteps_injective {names names' : List String} (named : ∀ name ∈ names, IsName name)
    (named' : ∀ name ∈ names', IsName name) (same : ofSteps names = ofSteps names') : names = names' := by
  have empty : pieces (ofSteps []) = [""] := rfl
  by_cases top : names = []
  · by_cases top' : names' = []
    · rw [top, top']
    · have cut := pieces_ofSteps top' named'
      rw [← same, top, empty] at cut
      have proper := named' "" (cut ▸ List.mem_singleton_self _)
      exact absurd rfl proper.1
  · have cut := pieces_ofSteps top named
    by_cases top' : names' = []
    · rw [same, top', empty] at cut
      have proper := named "" (cut ▸ List.mem_singleton_self _)
      exact absurd rfl proper.1
    · rw [← cut, same, pieces_ofSteps top' named']

theorem foldl_turn_of_isName {names place : List String} (named : ∀ name ∈ names, IsName name) :
    names.foldl turn place = place ++ names := by
  induction names generalizing place with
  | nil => exact (List.append_nil place).symm
  | cons name rest ih =>
    obtain ⟨⟨nonempty, noDot, noDots, _⟩, named⟩ := List.forall_mem_cons.mp named
    rw [List.foldl_cons, turn, if_neg (by simp [nonempty, noDot]), if_neg noDots, ih named, List.append_assoc,
      List.singleton_append]

/-- The pieces of a path seen from a directory come behind those of the directory, less an empty last one. -/
theorem pieces_join {directory path : String} (named : directory ≠ "") (relative : isAbsolute path = false) :
    ∃ lead, pieces (join directory path) = lead ++ pieces path ∧
      (pieces directory = lead ∨ pieces directory = lead ++ [""]) ∧
      isAbsolute (join directory path) = isAbsolute directory := by
  have nonempty : directory.toList ≠ [] := fun empty => named (String.toList_eq_nil_iff.mp empty)
  have head (rest : List Char) : (directory.toList ++ rest).head? = directory.toList.head? := by
    rw [List.head?_append_of_ne_nil _ nonempty]
  rw [join, if_neg (Bool.eq_false_iff.mp relative)]
  by_cases closed : directory.toList.getLast? = some '/'
  · obtain ⟨lead, whole⟩ := List.getLast?_eq_some_iff.mp closed
    have cut : directory = String.ofList lead ++ "/" := by
      rw [← String.toList_inj, whole]
      simp
    refine ⟨pieces (String.ofList lead), ?_, Or.inr ?_, ?_⟩
    · rw [if_pos (by simp [closed]), cut, pieces_append_slash]
    · have slash := pieces_append_slash (String.ofList lead) ""
      rwa [String.append_empty, ← cut] at slash
    · rw [if_pos (by simp [closed]), isAbsolute, isAbsolute, String.toList_append, head]
  · have open' : ¬ (directory.isEmpty || directory.toList.getLast? == some '/') = true := by simp [closed, named]
    refine ⟨pieces directory, ?_, Or.inl rfl, ?_⟩
    · rw [if_neg open', pieces_append_slash]
    · rw [if_neg open', isAbsolute, isAbsolute, String.toList_append, String.toList_append, List.append_assoc, head]

theorem head?_pieces_of_isAbsolute {path : String} (absolute : isAbsolute path = true) :
    (pieces path).head? = some "" := by
  obtain ⟨rest, whole⟩ := List.head?_eq_some_iff.mp (beq_iff_eq.mp absolute)
  have cut : path = "" ++ "/" ++ String.ofList rest := by
    rw [← String.toList_inj, whole]
    simp
  rw [cut, pieces_append_slash]
  rfl

theorem slash_not_mem_of_mem_pieces {path piece : String} (member : piece ∈ pieces path) : '/' ∉ piece.toList := by
  obtain ⟨chars, part, rfl⟩ := List.mem_map.mp member
  intro inside
  rw [String.toList_ofList] at inside
  have separator := (Text.of_mem_split part inside).2
  cases separator

/-- The last pieces of a path are those of another one just when a slash stands in front of it, or nothing. -/
theorem pieces_suffix_iff {name path : String} :
    pieces name <:+ pieces path ↔ path = name ∨ ∃ lead, path.toList = lead ++ '/' :: name.toList := by
  constructor
  · rintro ⟨before, whole⟩
    by_cases none : before = []
    · rw [none, List.nil_append] at whole
      exact .inl (pieces_injective whole.symm)
    · have slashless : ∀ piece ∈ before, '/' ∉ piece.toList := fun piece member =>
        slash_not_mem_of_mem_pieces (whole ▸ List.mem_append_left (pieces name) member)
      have same : path = ofSteps before ++ "/" ++ name := by
        refine pieces_injective ?_
        rw [pieces_append_slash, pieces_ofSteps_eq_flatMap none, flatMap_pieces slashless, whole]
      exact .inr ⟨(ofSteps before).toList, by rw [same]; simp⟩
  · rintro (rfl | ⟨lead, whole⟩)
    · exact List.suffix_rfl
    · have same : path = String.ofList lead ++ "/" ++ name := String.toList_injective (by rw [whole]; simp)
      rw [same, pieces_append_slash]
      exact List.suffix_append _ _

end Pieces

/-- Where a path leads from a place of proper names, the names are proper too. -/
theorem isName_of_mem_follow {place : List String} (named : ∀ name ∈ place, IsName name) (path : String) :
    ∀ name ∈ follow place path, IsName name := by
  have proper : ∀ piece ∈ pieces path, '/' ∉ piece.toList := fun piece member => slash_not_mem_of_mem_pieces member
  change ∀ name ∈ (pieces path).foldl turn place, IsName name
  generalize pieces path = rest at proper ⊢
  induction rest generalizing place with
  | nil => exact named
  | cons piece rest ih =>
    obtain ⟨slashless, proper⟩ := List.forall_mem_cons.mp proper
    refine ih (fun name member => ?_) proper
    rw [turn] at member
    split at member
    · exact named name member
    · rename_i stays
      split at member
      · exact named name (List.dropLast_subset _ member)
      · rename_i up
        rcases List.mem_append.mp member with old | new
        · exact named name old
        · obtain ⟨nonempty, noDot⟩ : piece ≠ "" ∧ piece ≠ "." := by simpa using stays
          rw [List.mem_singleton.mp new]
          exact ⟨nonempty, noDot, up, slashless⟩

/-- A path that starts where it is looked at from and never goes up. -/
def IsPlain (path : String) : Prop := isAbsolute path = false ∧ ".." ∉ pieces path

instance (path : String) : Decidable (IsPlain path) := inferInstanceAs (Decidable (_ ∧ _))

theorem IsPlain.join {directory path : String} (first : IsPlain directory) (second : IsPlain path) :
    IsPlain (join directory path) := by
  by_cases named : directory = ""
  · have same : Path.join directory path = path := by
      rw [Path.join, if_neg (Bool.eq_false_iff.mp second.1), if_pos (by simp [named]), named, String.empty_append]
    rwa [same]
  · obtain ⟨lead, behind, cut, start⟩ := pieces_join named second.1
    refine ⟨start.trans first.1, ?_⟩
    rw [behind, List.mem_append, not_or]
    refine ⟨fun up => first.2 ?_, second.2⟩
    rcases cut with same | same <;> rw [same] <;> simp [up]

/-- The slash behind a directory does not count. -/
theorem IsPlain.of_append_slash {path : String} (plain : IsPlain (path ++ "/")) : IsPlain path := by
  have cut := pieces_append_slash path ""
  rw [String.append_empty] at cut
  refine ⟨?_, fun up => plain.2 (cut ▸ List.mem_append_left _ up)⟩
  by_contra absolute
  obtain ⟨rest, whole⟩ := List.head?_eq_some_iff.mp (beq_iff_eq.mp ((Bool.not_eq_false _).mp absolute))
  have relative := plain.1
  rw [isAbsolute, String.toList_append, whole] at relative
  cases relative

theorem isPlain_ofSteps {names : List String} (nonempty : names ≠ []) (named : ∀ name ∈ names, IsName name) :
    IsPlain (ofSteps names) := by
  have cut := pieces_ofSteps nonempty named
  constructor
  · by_contra absolute
    have first := head?_pieces_of_isAbsolute ((Bool.not_eq_false _).mp absolute)
    rw [cut] at first
    exact (named _ (List.mem_of_head? first)).1 rfl
  · rw [cut]
    intro up
    exact (named _ up).2.2.1 rfl

end Plumbline.Path
