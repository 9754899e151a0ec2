import Plumbline.Proofs.Blueprint.Fields

namespace Plumbline

namespace Model

open Text

/-- White space. -/
def IsGap (s : List Char) : Prop := ∀ c ∈ s, isBlank c = true

/-- A word. -/
def IsIdentifier (s : List Char) : Prop := s ≠ [] ∧ ∀ c ∈ s, isWord c = true

/-- Nothing blank at either end. -/
def IsTrimmed (s : List Char) : Prop := (∀ c ∈ s.head?, isBlank c = false) ∧ ∀ c ∈ s.getLast?, isBlank c = false

/-- No comma and no parenthesis. -/
def IsSimple (s : List Char) : Prop := ∀ c ∈ s, c ∉ [',', '(', ')']

/-- What a line is indented with. -/
def IsMargin (s : List Char) : Prop := ∀ c ∈ s, c = ' ' ∨ c = '\t'

-- The checks go through the characters of the text, never through all the characters there are.
section Decidable

variable (s : List Char)

instance : Decidable (IsGap s) := decidable_of_iff (s.all isBlank = true) List.all_eq_true

instance : Decidable (IsIdentifier s) :=
  decidable_of_iff (s ≠ [] ∧ s.all isWord = true) (and_congr_right' List.all_eq_true)

instance : Decidable (IsTrimmed s) :=
  decidable_of_iff (s.head?.all (!isBlank ·) = true ∧ s.getLast?.all (!isBlank ·) = true) (by
    simp only [IsTrimmed, Option.all_eq_true, Bool.not_eq_true', Option.mem_def])

instance : Decidable (IsSimple s) :=
  decidable_of_iff (s.all (fun c => !([',', '(', ')'].contains c)) = true) (by simp [IsSimple])

instance : Decidable (IsMargin s) :=
  decidable_of_iff (s.all (fun c => c == ' ' || c == '\t') = true) (by simp [IsMargin])

end Decidable

/-- What an argument is worth: a text without blanks at its ends that holds neither commas nor parentheses. -/
structure Value where
  text : List Char
  nonempty : text ≠ [] := by decide
  trimmed : IsTrimmed text := by decide
  simple : IsSimple text := by decide

/-- What a call is given as an argument: a value in its place, or one under a name. -/
inductive Given where
  | positional (value : Value) (unnamed : '=' ∉ value.text)
  | keyword (name before behind : List Char) (value : Value) (isName : IsIdentifier name)
      (gaps : IsGap before ∧ IsGap behind)

namespace Given

def text : Given → List Char
  | positional value _ => value.text
  | keyword name before behind value _ _ => name ++ (before ++ '=' :: (behind ++ value.text))

def positional? : Given → Option Value
  | positional value _ => some value
  | keyword .. => none

/-- The value that is given for the target by name. -/
def to? : Given → Option Value
  | positional .. => none
  | keyword name _ _ value _ _ => if name = "to".toList then some value else none

end Given

/-- An argument of a call with the white space around it. -/
structure Argument where
  lead : List Char
  given : Given
  trail : List Char
  gaps : IsGap lead ∧ IsGap trail := by decide

def Argument.text (argument : Argument) : List Char := argument.lead ++ (argument.given.text ++ argument.trail)

/-- A statement that declares a field: an assignment of a call, on as many lines as its white space takes. -/
structure Statement where
  margin : List Char
  field : List Char
  behindField : List Char
  behindEquals : List Char
  constructor : List Char
  behindConstructor : List Char
  arguments : List Argument
  /-- What stands behind a comma that follows the last argument, or between the parentheses where there is none. -/
  closing : Option (List Char)
  tail : List Char
  isMargin : IsMargin margin := by decide
  isField : IsIdentifier field := by decide +kernel
  isConstructor : IsIdentifier constructor := by decide +kernel
  gaps : IsGap behindField ∧ IsGap behindEquals ∧ IsGap behindConstructor ∧ IsGap (closing.getD []) ∧ IsGap tail := by
    decide
  /-- Arguments by place come first. -/
  ordered : arguments.Pairwise fun early late => early.given.positional?.isNone → late.given.positional?.isNone := by
    decide

namespace Statement

variable (statement : Statement)

def name : String := String.ofList statement.field

def pieces : List (List Char) := statement.arguments.map Argument.text ++ statement.closing.toList

/-- What stands between the parentheses. -/
def inside : List Char := [','].intercalate statement.pieces

/-- What stands in front of the closing parenthesis. -/
def opening : List Char :=
  statement.margin ++ (statement.field ++ (statement.behindField ++ '=' :: (statement.behindEquals ++
    ("models.".toList ++ (statement.constructor ++ (statement.behindConstructor ++ '(' :: statement.inside))))))

def text : List Char := statement.opening ++ ')' :: statement.tail

/-- The value that is meant as the target: the first one given by place, or else the one given for it by name. -/
def aim? : Option Value :=
  (statement.arguments.findSome? (·.given.positional?)).or (statement.arguments.findSome? (·.given.to?))

def declaration : Declaration := ⟨statement.name, String.ofList statement.constructor, statement.inside⟩

end Statement

/-- The text of statements below one another. -/
def textOf (statements : List Statement) : String := String.ofList (['\n'].intercalate (statements.map Statement.text))

/-- The characters that the name of a target is made of. -/
def isTargetChar (c : Char) : Bool := isAlphanumeric c || c == '_' || c == '.'

/-- A value that is the name of a target, bare or between quotation marks. -/
def IsTarget (value : List Char) (target : String) : Prop :=
  ∃ opening closing, value = opening ++ (target.toList ++ closing) ∧ (∀ c ∈ opening ++ closing, isQuote c = true) ∧
    target ≠ "" ∧ ∀ c ∈ target.toList, isTargetChar c = true

/-- The kind of field that a statement declares: a relation where it calls for one and aims at the name of a target, and
a plain field otherwise. -/
inductive Declares (statement : Statement) : FieldKind → Prop
  | relation {cardinality : Cardinality} {value : Value} {target : String}
      (calls : String.ofList statement.constructor = cardinality.constructor) (aims : statement.aim? = some value)
      (names : IsTarget value.text target) : Declares statement (.relation cardinality target)
  | plain (unrelated : ∀ (cardinality : Cardinality) value target,
      String.ofList statement.constructor = cardinality.constructor → statement.aim? = some value →
        ¬ IsTarget value.text target) : Declares statement (.plain (String.ofList statement.constructor))

section Targets

theorem not_isQuote_of_isTargetChar {c : Char} (target : isTargetChar c = true) : isQuote c = false := by
  by_contra quote
  rcases Source.eq_of_isQuote (Bool.of_not_eq_false quote) with rfl | rfl <;> exact absurd target (by decide)

/-- A value has one name at most: what is left without quotation marks. -/
theorem isTarget_iff {value : List Char} {target : String} :
    IsTarget value target ↔ stripWhile isQuote value = target.toList ∧ target ≠ "" ∧
      ∀ c ∈ target.toList, isTargetChar c = true := by
  constructor
  · rintro ⟨opening, closing, rfl, quotes, nonempty, named⟩
    obtain ⟨before, behind⟩ := List.forall_mem_append.mp quotes
    refine ⟨stripWhile_append before behind ?_ ?_, nonempty, named⟩
    · exact fun c first => not_isQuote_of_isTargetChar (named c (List.mem_of_mem_head? first))
    · exact fun c last => not_isQuote_of_isTargetChar (named c (List.mem_of_getLast? last))
  · rintro ⟨stripped, nonempty, named⟩
    obtain ⟨opening, closing, split, quotes⟩ := exists_append_stripWhile isQuote value
    exact ⟨opening, closing, stripped ▸ split, quotes, nonempty, named⟩

theorem ofConstructor?_eq_some_iff {name : String} {cardinality : Cardinality} :
    Cardinality.ofConstructor? name = some cardinality ↔ name = cardinality.constructor := by
  constructor
  · intro found
    have same := List.find?_some found
    exact (by simpa using same : cardinality.constructor = name).symm
  · rintro rfl
    cases cardinality <;> rfl

/-- The name in a value, without quotation marks, if it is that of a target. -/
def nameIn? (value : List Char) : Option String :=
  let name := stripWhile isQuote value
  if !name.isEmpty && name.all isTargetChar then some (String.ofList name) else none

theorem nameIn?_eq_some_iff {value : List Char} {target : String} :
    nameIn? value = some target ↔ IsTarget value target := by
  rw [isTarget_iff, nameIn?]
  simp only [Option.ite_none_right_eq_some, Option.some.injEq, Bool.and_eq_true, Bool.not_eq_true',
    List.isEmpty_eq_false_iff, List.all_eq_true]
  constructor
  · rintro ⟨⟨nonempty, named⟩, rfl⟩
    rw [String.toList_ofList]
    exact ⟨rfl, by simpa using nonempty, named⟩
  · rintro ⟨stripped, nonempty, named⟩
    rw [stripped]
    exact ⟨⟨by simpa using nonempty, named⟩, String.ofList_toList⟩

end Targets

section Characters

variable {c : Char}

theorem not_mark_of_isBlank (blank : isBlank c = true) : c ∉ [',', '(', ')'] ∧ c ≠ '=' := by
  constructor
  · intro member
    simp only [List.mem_cons, List.not_mem_nil, or_false] at member
    rcases member with rfl | rfl | rfl <;> exact absurd blank (by decide)
  · rintro rfl
    exact absurd blank (by decide)

theorem not_mark_of_isWord (word : isWord c = true) : c ∉ [',', '(', ')'] ∧ c ≠ '=' := by
  constructor
  · intro member
    simp only [List.mem_cons, List.not_mem_nil, or_false] at member
    rcases member with rfl | rfl | rfl <;> exact absurd word (by decide +kernel)
  · rintro rfl
    exact absurd word (by decide +kernel)

theorem not_margin_of_isWord (word : isWord c = true) : (c == ' ' || c == '\t') = false := by
  by_contra margin
  have isMargin : c = ' ' ∨ c = '\t' := by simpa [or_iff_not_imp_left] using margin
  rcases isMargin with rfl | rfl <;> exact absurd word (by decide +kernel)

/-- Behind a word and white space stands what is no part of the word. -/
theorem not_isWord_head {gap rest : List Char} (isGap : IsGap gap) (stops : isWord c = false) :
    ∀ d ∈ (gap ++ c :: rest).head?, isWord d = false := by
  cases gap with
  | nil =>
    rintro d first
    obtain rfl : c = d := Option.some.inj first
    exact stops
  | cons b gap =>
    rintro d first
    obtain rfl : b = d := Option.some.inj first
    exact not_isWord_of_isBlank (isGap b List.mem_cons_self)

end Characters

/-- Where a line does not begin with a word, no declaration begins. -/
theorem readDeclaration_of_gap {before : Option Char} {gap rest : List Char} (solid : ∀ c ∈ gap, isWord c = false)
    (ends : ∀ c ∈ rest.head?, c = '\n') : readDeclaration before (gap ++ rest) = none := by
  have first : ∀ c ∈ ((gap ++ rest).dropWhile fun c => c == ' ' || c == '\t').head?, isWord c = false := by
    induction gap with
    | nil =>
      cases rest with
      | nil => simp
      | cons d rest =>
        obtain rfl : d = '\n' := ends d rfl
        rw [List.nil_append, List.dropWhile_cons_of_neg (by decide)]
        intro c first
        obtain rfl : '\n' = c := Option.some.inj first
        decide +kernel
    | cons d gap ih =>
      obtain ⟨here, solid⟩ := List.forall_mem_cons.mp solid
      rw [List.cons_append, List.dropWhile_cons]
      split
      · exact ih solid
      · simpa using here
  have nothing : some? isWord ((gap ++ rest).dropWhile fun c => c == ' ' || c == '\t') = none :=
    some?_eq_none first
  rw [readDeclaration, nothing]
  split <;> rfl

namespace Given

variable (given : Given)

theorem isSimple_text : IsSimple given.text := by
  cases given with
  | positional value _ => exact value.simple
  | keyword name before behind value isName gaps =>
    rw [text, IsSimple]
    simp only [List.forall_mem_append, List.forall_mem_cons]
    refine ⟨fun c member => (not_mark_of_isWord (isName.2 c member)).1, ?_, by decide, ?_, value.simple⟩
    · exact fun c member => (not_mark_of_isBlank (gaps.1 c member)).1
    · exact fun c member => (not_mark_of_isBlank (gaps.2 c member)).1

theorem first_text : ∀ c ∈ given.text.head?, isBlank c = false := by
  cases given with
  | positional value _ => exact value.trimmed.1
  | keyword name before behind value isName gaps =>
    obtain ⟨d, more, rfl⟩ := List.exists_cons_of_ne_nil isName.1
    intro c first
    obtain rfl : d = c := Option.some.inj first
    by_contra blank
    have word := isName.2 d List.mem_cons_self
    rw [not_isWord_of_isBlank (Bool.of_not_eq_false blank)] at word
    contradiction

theorem last_text : ∀ c ∈ given.text.getLast?, isBlank c = false := by
  cases given with
  | positional value _ => exact value.trimmed.2
  | keyword name before behind value isName gaps =>
    have ends : (keyword name before behind value isName gaps).text.getLast? = value.text.getLast? := by
      rw [text, List.getLast?_append, List.getLast?_append, List.getLast?_cons, List.getLast?_append,
        List.getLast?_eq_some_getLast value.nonempty]
      rfl
    rw [ends]
    exact value.trimmed.2

theorem text_ne_nil : given.text ≠ [] := by
  cases given with
  | positional value _ => exact value.nonempty
  | keyword name => simp [text]

theorem contains_equals : given.text.contains '=' = given.positional?.isNone := by
  cases given with
  | positional value unnamed => simpa [text, positional?] using unnamed
  | keyword name => simp [text, positional?]

end Given

/-- The keyword of the target is read where the name is all of it. -/
theorem toArgument?_eq_some_iff {name before rest found : List Char} (isName : IsIdentifier name)
    (isGap : IsGap before) :
    toArgument? (name ++ (before ++ '=' :: rest)) = some found ↔ name = "to".toList ∧ found = rest := by
  have equals : isBlank '=' = false := by decide
  have stop : isWord '=' = false := by decide +kernel
  have isTo : IsIdentifier "to".toList := by decide +kernel
  constructor
  · intro reads
    obtain ⟨s, begins, assigns⟩ := Option.bind_eq_some_iff.mp reads
    have behind := after?_eq_some_iff.mp assigns
    have halves : s = s.takeWhile isBlank ++ '=' :: found := by
      conv_lhs => rw [← List.takeWhile_append_dropWhile (p := isBlank) (l := s)]
      exact congrArg _ behind
    have gap : IsGap (s.takeWhile isBlank) := fun c member => List.mem_takeWhile_imp member
    -- The name is read off the text, and so is the keyword.
    have byName : some? isWord (name ++ (before ++ '=' :: rest)) = some (name, before ++ '=' :: rest) :=
      some?_append isName.1 isName.2 (not_isWord_head isGap stop)
    have byKeyword : some? isWord ("to".toList ++ (s.takeWhile isBlank ++ '=' :: found)) =
        some ("to".toList, s.takeWhile isBlank ++ '=' :: found) :=
      some?_append isTo.1 isTo.2 (not_isWord_head gap stop)
    rw [after?_eq_some_iff.mp begins, halves, byKeyword] at byName
    obtain ⟨rfl, same⟩ := Prod.mk.inj (Option.some.inj byName)
    refine ⟨rfl, ?_⟩
    have trimmed := congrArg trimStart same
    rw [trimStart_append gap, trimStart_append isGap, trimStart_cons equals, trimStart_cons equals] at trimmed
    exact (List.cons.inj trimmed).2
  · rintro ⟨rfl, rfl⟩
    rw [toArgument?, after?_append, Option.bind_some, trimStart_append isGap, trimStart_cons equals]
    exact after?_append ['='] found

theorem trim_behind {gap : List Char} (isGap : IsGap gap) (value : Value) : trim (gap ++ value.text) = value.text := by
  have stripped : trim (gap ++ (value.text ++ [])) = value.text :=
    stripWhile_append isGap (by simp) value.trimmed.1 value.trimmed.2
  rwa [List.append_nil] at stripped

theorem toArgument?_text (given : Given) : (toArgument? given.text).map trim = given.to?.map Value.text := by
  cases given with
  | positional value unnamed =>
    cases reads : toArgument? value.text with
    | none => rw [Given.text, reads]; rfl
    | some found =>
      obtain ⟨s, begins, assigns⟩ := Option.bind_eq_some_iff.mp reads
      have inside : '=' ∈ trimStart s := by
        rw [after?_eq_some_iff.mp assigns]
        exact List.mem_cons_self
      refine absurd ?_ unnamed
      rw [after?_eq_some_iff.mp begins]
      exact List.mem_append_right _ (List.dropWhile_subset _ inside)
  | keyword name before behind value isName gaps =>
    rw [Given.text, Given.to?]
    split
    · rename_i isTo
      rw [(toArgument?_eq_some_iff isName gaps.1).mpr ⟨isTo, rfl⟩, Option.map_some, trim_behind gaps.2]
      rfl
    · rename_i other
      cases reads : toArgument? (name ++ (before ++ '=' :: (behind ++ value.text))) with
      | none => rfl
      | some found => exact absurd ((toArgument?_eq_some_iff isName gaps.1).mp reads).1 other

theorem Argument.trim_text (argument : Argument) : trim argument.text = argument.given.text :=
  stripWhile_append argument.gaps.1 argument.gaps.2 argument.given.first_text argument.given.last_text

theorem Argument.isSimple_text (argument : Argument) : IsSimple argument.text := by
  rw [Argument.text, IsSimple]
  simp only [List.forall_mem_append]
  refine ⟨?_, argument.given.isSimple_text, ?_⟩
  · exact fun c member => (not_mark_of_isBlank (argument.gaps.1 c member)).1
  · exact fun c member => (not_mark_of_isBlank (argument.gaps.2 c member)).1

namespace Statement

variable (statement : Statement)

theorem isSimple_pieces : ∀ piece ∈ statement.pieces, IsSimple piece := by
  obtain ⟨_, _, _, closing, _⟩ := statement.gaps
  rw [pieces]
  simp only [List.forall_mem_append, List.forall_mem_map, Option.mem_toList]
  refine ⟨fun argument _ => argument.isSimple_text, fun piece last c member => ?_⟩
  rw [Option.mem_def.mp last] at closing
  exact (not_mark_of_isBlank (closing c member)).1

theorem close_not_mem_inside : ∀ c ∈ statement.inside, c ≠ ')' := by
  refine forall_mem_intercalate (by decide) fun piece among c member => ?_
  rintro rfl
  exact statement.isSimple_pieces piece among _ member (by decide)

/-- The parts between the commas are the arguments. -/
theorem parts_inside : ((split (· == ',') statement.inside).map trim).filter (!·.isEmpty) =
    statement.arguments.map (·.given.text) := by
  obtain ⟨_, _, _, closing, _⟩ := statement.gaps
  have parts : ((split (· == ',') statement.inside).map trim).filter (!·.isEmpty) =
      (statement.pieces.map trim).filter (!·.isEmpty) := by
    by_cases nothing : statement.pieces = []
    · rw [inside, nothing]
      rfl
    · rw [inside, split_intercalate (by decide) nothing]
      intro piece among c member
      refine beq_eq_false_iff_ne.mpr ?_
      rintro rfl
      exact statement.isSimple_pieces piece among _ member (by decide)
  have given : (statement.arguments.map Argument.text).map trim = statement.arguments.map (·.given.text) := by
    rw [List.map_map]
    exact List.map_congr_left fun argument _ => argument.trim_text
  have texts : (statement.arguments.map (·.given.text)).filter (!·.isEmpty) =
      statement.arguments.map (·.given.text) := by
    rw [List.filter_eq_self, List.forall_mem_map]
    intro argument _
    simpa using argument.given.text_ne_nil
  have closed : (statement.closing.toList.map trim).filter (!·.isEmpty) = [] := by
    cases last : statement.closing with
    | none => rfl
    | some gap =>
      have blank : IsGap gap := by simpa [last] using closing
      rw [Option.toList_some, List.map_singleton, trim_of_blank blank]
      rfl
  rw [parts, pieces, List.map_append, List.filter_append, given, texts, closed, List.append_nil]

/-- The target that is read is the name that the value in its place has. -/
theorem targetOf?_inside : targetOf? statement.inside = statement.aim?.bind fun value => nameIn? value.text := by
  have read : targetOf? statement.inside = (statement.arguments.map (·.given.text)).head?.bind fun first =>
      (if first.contains '=' then ((statement.arguments.map (·.given.text)).findSome? toArgument?).map trim
        else some first).bind nameIn? := by
    rw [← parts_inside, targetOf?]
    refine Option.bind_congr fun first _ => ?_
    split <;> rfl
  have byName : ((statement.arguments.map (·.given.text)).findSome? toArgument?).map trim =
      (statement.arguments.findSome? (·.given.to?)).map Value.text := by
    rw [List.findSome?_map, List.map_findSome?, List.map_findSome?]
    exact congrArg (List.findSome? · _) (funext fun argument => toArgument?_text argument.given)
  have ordered := statement.ordered
  rw [read, byName, aim?]
  cases given : statement.arguments with
  | nil => rfl
  | cons first rest =>
    rw [given] at ordered
    rw [List.map_cons, List.head?_cons, Option.bind_some, Given.contains_equals]
    cases place : first.given.positional? with
    | some value =>
      have here : first.given.text = value.text := by
        cases given : first.given with
        | positional other => rw [given] at place; cases place; rfl
        | keyword => rw [given] at place; cases place
      simp only [here, List.findSome?_cons, place]
      rfl
    | none =>
      have unplaced : rest.findSome? (·.given.positional?) = none :=
        List.findSome?_eq_none_iff.mpr fun later member =>
          Option.isNone_iff_eq_none.mp ((List.pairwise_cons.mp ordered).1 later member (place ▸ rfl))
      simp only [List.findSome?_cons, place, unplaced, Option.isNone_none, if_true, Option.none_or, Option.bind_map]
      rfl

/-- The name of a target that is read off the arguments is that of the value in its place. -/
theorem targetOf?_eq_some_iff {target : String} : targetOf? statement.declaration.arguments = some target ↔
    ∃ value, statement.aim? = some value ∧ IsTarget value.text target := by
  have read : targetOf? statement.declaration.arguments = statement.aim?.bind fun value => nameIn? value.text :=
    statement.targetOf?_inside
  simp only [read, Option.bind_eq_some_iff, nameIn?_eq_some_iff]

/-- The kind that is read is the one that the statement declares. -/
theorem declares_iff {kind : FieldKind} : Declares statement kind ↔ statement.declaration.kind = kind := by
  constructor
  · rintro (⟨calls, aims, names⟩ | unrelated)
    · have calls := ofConstructor?_eq_some_iff.mpr calls
      have target := statement.targetOf?_eq_some_iff.mpr ⟨_, aims, names⟩
      simp only [Declaration.kind, declaration] at target ⊢
      rw [calls, target]
    · rw [Declaration.kind]
      split
      · rename_i calls target
        obtain ⟨value, aims, names⟩ := statement.targetOf?_eq_some_iff.mp target
        exact absurd names (unrelated _ value _ (ofConstructor?_eq_some_iff.mp calls) aims)
      · rfl
  · rintro rfl
    rw [Declaration.kind]
    split
    · rename_i calls target
      obtain ⟨value, aims, names⟩ := statement.targetOf?_eq_some_iff.mp target
      exact .relation (ofConstructor?_eq_some_iff.mp calls) aims names
    · rename_i other
      refine .plain fun cardinality value target calls aims names => ?_
      exact other cardinality target (ofConstructor?_eq_some_iff.mpr calls)
        (statement.targetOf?_eq_some_iff.mpr ⟨value, aims, names⟩)

/-- A statement is read up to its closing parenthesis. -/
theorem readDeclaration_opening {before : Option Char} (start : atLineStart before = true) (rest : List Char) :
    readDeclaration before (statement.opening ++ ')' :: rest) = some (statement.declaration, ')' :: rest) := by
  obtain ⟨behindField, behindEquals, behindConstructor, _, _⟩ := statement.gaps
  have shape : statement.opening ++ ')' :: rest = statement.margin ++ (statement.field ++ (statement.behindField ++
      '=' :: (statement.behindEquals ++ ("models.".toList ++ (statement.constructor ++ (statement.behindConstructor ++
        '(' :: (statement.inside ++ ')' :: rest))))))) := by
    simp only [opening, List.append_assoc, List.cons_append]
  have margin : ∀ c ∈ statement.margin, (c == ' ' || c == '\t') = true := fun c member => by
    simpa using statement.isMargin c member
  have firstOfField {behind : List Char} :
      ∀ c ∈ (statement.field ++ behind).head?, (c == ' ' || c == '\t') = false := by
    obtain ⟨d, more, split⟩ := List.exists_cons_of_ne_nil statement.isField.1
    have word : isWord d = true := statement.isField.2 d (split ▸ List.mem_cons_self)
    rw [split]
    intro c first
    obtain rfl : d = c := Option.some.inj first
    exact not_margin_of_isWord word
  have arguments : (statement.inside ++ ')' :: rest).takeWhile (· != ')') = statement.inside ∧
      (statement.inside ++ ')' :: rest).dropWhile (· != ')') = ')' :: rest := by
    have simple : ∀ c ∈ statement.inside, (c != ')') = true := fun c member => by
      simpa using statement.close_not_mem_inside c member
    rw [List.takeWhile_append_of_pos simple, List.dropWhile_append_of_pos simple]
    simp
  have trimmed {behind : List Char} : trimStart ("models.".toList ++ behind) = "models.".toList ++ behind := by
    refine dropWhile_eq_self fun c first => ?_
    obtain rfl : 'm' = c := Option.some.inj first
    decide
  rw [shape, readDeclaration, if_neg (by simp [start]), List.dropWhile_append_of_pos margin,
    dropWhile_eq_self firstOfField, some?_append statement.isField.1 statement.isField.2
      (not_isWord_head behindField (by decide +kernel))]
  simp only [Option.bind_eq_bind, Option.bind_some]
  rw [trimStart_append behindField, trimStart_cons (by decide), after?_singleton, Option.bind_some,
    trimStart_append behindEquals, trimmed, after?_append, Option.bind_some,
    some?_append statement.isConstructor.1 statement.isConstructor.2
      (not_isWord_head behindConstructor (by decide +kernel)), Option.bind_some, trimStart_append behindConstructor,
    trimStart_cons (by decide), after?_singleton, Option.bind_some, arguments.1, arguments.2]
  rfl

/-- Behind its closing parenthesis nothing is read before a line begins anew. -/
theorem findAll_text {before : Option Char} (start : atLineStart before = true) {rest : List Char}
    (ends : ∀ c ∈ rest.head?, c = '\n') :
    findAll readDeclaration before (statement.text ++ rest) =
      statement.declaration :: findAll readDeclaration statement.text.getLast? rest := by
  obtain ⟨_, _, _, _, tail⟩ := statement.gaps
  have solid : ∀ c ∈ ')' :: statement.tail, isWord c = false :=
    List.forall_mem_cons.mpr ⟨by decide +kernel, fun c member => not_isWord_of_isBlank (tail c member)⟩
  have fails : ∀ first second, ')' :: statement.tail = first ++ second → second ≠ [] →
      readDeclaration (first.getLast?.or statement.opening.getLast?) (second ++ rest) = none := by
    intro first second halves _
    refine readDeclaration_of_gap (fun c member => solid c ?_) ends
    exact halves ▸ List.mem_append_right first member
  have nonempty : statement.opening ≠ [] := by simp [opening]
  have shape : statement.text ++ rest = statement.opening ++ (')' :: statement.tail ++ rest) := by
    rw [text, List.append_assoc]
  have last : statement.text.getLast? = (')' :: statement.tail).getLast?.or statement.opening.getLast? := by
    rw [text, List.getLast?_append]
  have reads := statement.readDeclaration_opening start (statement.tail ++ rest)
  rw [shape, last, ← findAll_of_fails fails]
  exact findAll_of_reads nonempty reads

end Statement

theorem findAll_textOf {before : Option Char} (start : atLineStart before = true) (statements : List Statement) :
    findAll readDeclaration before (['\n'].intercalate (statements.map Statement.text)) =
      statements.map Statement.declaration := by
  induction statements generalizing before with
  | nil => rw [List.map_nil, List.intercalate_nil, findAll, List.map_nil]
  | cons statement rest ih =>
    cases rest with
    | nil =>
      have alone : findAll readDeclaration before (statement.text ++ []) =
          statement.declaration :: findAll readDeclaration statement.text.getLast? [] :=
        statement.findAll_text start (by simp)
      rw [List.append_nil, findAll] at alone
      rw [List.map_singleton, List.intercalate_singleton, alone, List.map_singleton]
    | cons next rest =>
      have fails (before : Option Char) (more : List Char) : readDeclaration before ('\n' :: more) = none :=
        @readDeclaration_of_gap before [] ('\n' :: more) (by simp) (by simp)
      rw [List.map_cons, List.map_cons, List.intercalate_cons_cons, List.append_assoc, statement.findAll_text start]
      · rw [List.singleton_append, findAll, fails]
        exact congrArg _ (ih rfl)
      · simp

/-- A relation with a quoted target, a relation whose target is given by name, and the first field once more. -/
def loanStatements : List Statement :=
  [{ margin := "    ".toList, field := "client".toList, behindField := [' '], behindEquals := [' ']
     constructor := "ForeignKey".toList, behindConstructor := [], closing := some "\n    ".toList, tail := []
     arguments :=
      [{ lead := "\n        ".toList, trail := []
         given := .positional { text := "\"crm.Client\"".toList } (by decide) },
       { lead := "\n        ".toList, trail := []
         given := .keyword "null".toList [] [] { text := "True".toList } (by decide) (by decide) }] },
   { margin := "    ".toList, field := "owner".toList, behindField := [' '], behindEquals := [' ']
     constructor := "OneToOneField".toList, behindConstructor := [], closing := none, tail := ['\n']
     arguments :=
      [{ lead := [], trail := []
         given := .keyword "null".toList [] [] { text := "True".toList } (by decide) (by decide) },
       { lead := [' '], trail := []
         given := .keyword "to".toList [] [] { text := "User".toList } (by decide) (by decide) }] },
   { margin := "    ".toList, field := "client".toList, behindField := [' '], behindEquals := [' ']
     constructor := "CharField".toList, behindConstructor := [], closing := none, tail := [], arguments := [] }]

example : textOf loanStatements = "    client = models.ForeignKey(
        \"crm.Client\",
        null=True,
    )
    owner = models.OneToOneField(null=True, to=User)

    client = models.CharField()" := by decide +kernel

/-- A body made of statements has the fields that they declare, each at its first place and with the kind that its last
statement declares. -/
theorem ofClass_textOf (name bases : String) (statements : List Statement) :
    (ofClass name bases (textOf statements)).fields = (statements.map Statement.name).eraseDups ∧
      (∀ field, field ∈ (ofClass name bases (textOf statements)).fieldKinds.keys ↔
        field ∈ (ofClass name bases (textOf statements)).fields) ∧
      ∀ field kind, (ofClass name bases (textOf statements)).fieldKinds.get? field = some kind ↔
        ∃ statement, IsFinal Statement.name statements statement ∧ statement.name = field ∧ Declares statement kind := by
  have declared : declarationsIn (textOf statements) = statements.map Statement.declaration := by
    rw [declarationsIn, textOf, String.toList_ofList, findAll_textOf rfl]
  refine ⟨?fields, fun _ => mem_keys_ofClass, fun field kind => ?kinds⟩
  case fields =>
    rw [fields_ofClass, declared, List.map_map]
    rfl
  case kinds =>
    rw [get?_ofClass, declared, ← List.map_reverse, List.find?_map, Option.map_map, Option.map_eq_some_iff]
    constructor
    · rintro ⟨statement, found, same⟩
      have named := List.find?_some found
      simp only [Function.comp_apply, beq_iff_eq] at named
      obtain rfl : statement.name = field := named
      exact ⟨statement, isFinal_iff.mpr found, rfl, statement.declares_iff.mpr same⟩
    · rintro ⟨statement, final, rfl, declares⟩
      exact ⟨statement, isFinal_iff.mp final, statement.declares_iff.mp declares⟩

end Model

end Plumbline
