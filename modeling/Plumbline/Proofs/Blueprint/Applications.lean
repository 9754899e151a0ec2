import Plumbline.Proofs.Blueprint.Holders
import Plumbline.Proofs.Blueprint.Names
import Plumbline.Proofs.Text.Infix

namespace Plumbline.Applications

open LayoutNode Text

section Marks

variable {isMark : Char → Bool} {before s rest : List Char} {name : String}

/-- A word that stands in a text between two marks, behind what stands in front of them. -/
def Marked (isMark : Char → Bool) (before s : List Char) (name : String) : Prop :=
  ∃ opening closing behind, s = before ++ opening :: (name.toList ++ closing :: behind) ∧ isMark opening = true ∧
    isMark closing = true ∧ name.toList ≠ [] ∧ ∀ c ∈ name.toList, isWord c = true

theorem readMarked_iff (unlettered : ∀ c, isMark c = true → isWord c = false) {last : Option Char} :
    readMarked isMark last s = some (name, rest) ↔ ∃ opening closing, s = opening :: (name.toList ++ closing :: rest) ∧
      isMark opening = true ∧ isMark closing = true ∧ name.toList ≠ [] ∧ ∀ c ∈ name.toList, isWord c = true := by
  constructor
  · intro reads
    cases s with
    | nil => cases reads
    | cons c s =>
      simp only [readMarked] at reads
      split at reads
      · cases reads
      · rename_i opens
        obtain ⟨⟨word, behind⟩, found, reads⟩ := Option.bind_eq_some_iff.mp reads
        obtain ⟨whole, nonempty, words⟩ := some?_eq_some found
        cases behind with
        | nil => cases reads
        | cons d behind =>
          dsimp only at reads
          split at reads
          · rename_i closes
            obtain ⟨rfl, rfl⟩ := Prod.mk.inj (Option.some.inj reads)
            rw [String.toList_ofList]
            exact ⟨c, d, by rw [whole], by simpa using opens, closes, nonempty, words⟩
          · cases reads
  · rintro ⟨opening, closing, rfl, opens, closes, nonempty, words⟩
    have taken : some? isWord (name.toList ++ closing :: rest) = some (name.toList, closing :: rest) :=
      some?_append nonempty words fun c head => Option.some.inj head ▸ unlettered closing closes
    simp [readMarked, opens, closes, taken]

/-- A word between marks is found, unless the mark in front of it is the one behind another word. -/
theorem mem_findAll_readMarked (unlettered : ∀ c, isMark c = true → isWord c = false)
    (marked : Marked isMark before s name) (apart : ∀ c ∈ before.getLast?, isWord c = false) :
    name ∈ findAll (readMarked isMark) none s := by
  obtain ⟨opening, closing, behind, rfl, opens, closes, nonempty, words⟩ := marked
  refine mem_findAll_of_spares (leavesEnd_readMarked isMark)
    ((readMarked_iff unlettered).mpr ⟨opening, closing, rfl, opens, closes, nonempty, words⟩)
    (by simp only [List.length_cons, List.length_append]; omega) ?_
  intro first second split inside other behind' reads
  obtain ⟨opening', closing', whole, _, _, nonempty', words'⟩ := (readMarked_iff unlettered).mp reads
  obtain ⟨c, second, rfl⟩ := List.exists_cons_of_ne_nil inside
  have whole : second ++ opening :: (name.toList ++ closing :: behind) = other.toList ++ closing' :: behind' :=
    (List.cons.inj whole).2
  have shared : second ≠ other.toList := by
    rintro rfl
    have last : before.getLast? = some (other.toList.getLast nonempty') := by
      rw [split, List.getLast?_append_of_ne_nil _ (List.cons_ne_nil _ _), List.getLast?_cons,
        List.getLast?_eq_some_getLast nonempty', Option.getD_some]
    exact absurd (words' _ (List.getLast_mem nonempty')) (Bool.eq_false_iff.mp (apart _ last))
  rcases List.append_eq_append_iff.mp whole with ⟨more, word, cut⟩ | ⟨more, lead, cut⟩
  · -- The mark in front of the word would stand within the other word.
    obtain ⟨d, more, rfl⟩ := List.exists_cons_of_ne_nil fun none : more = [] => shared (by rw [word, none, List.append_nil])
    obtain ⟨rfl, _⟩ := List.cons.inj cut
    have letter := words' opening (word ▸ List.mem_append_right _ List.mem_cons_self)
    exact absurd letter (Bool.eq_false_iff.mp (unlettered _ opens))
  · obtain ⟨d, more, rfl⟩ := List.exists_cons_of_ne_nil fun none : more = [] => shared (by rw [lead, none, List.append_nil])
    exact ⟨more, (List.cons.inj cut).2.symm⟩

/-- Names that are all marked in a text and kept, without repetition, and with every kept one that is marked behind
something else than a word. -/
structure Gathers (isMark : Char → Bool) (s : List Char) (kept : String → Prop) (names : List String) : Prop where
  nodup : names.Nodup
  sound : ∀ name ∈ names, kept name ∧ ∃ before, Marked isMark before s name
  complete : ∀ name before, kept name → Marked isMark before s name → (∀ c ∈ before.getLast?, isWord c = false) →
    name ∈ names

theorem gathers_filter (unlettered : ∀ c, isMark c = true → isWord c = false) (s : List Char) (keeps : String → Bool) :
    Gathers isMark s (keeps · = true) (Distinct.ofList ((findAll (readMarked isMark) none s).filter keeps)) where
  nodup := Distinct.nodup_addAll .nil _
  sound name member := by
    obtain ⟨found, kept⟩ := List.mem_filter.mp ((Distinct.mem_addAll.mp member).resolve_left List.not_mem_nil)
    obtain ⟨before, tail, rest, rfl, reads⟩ := mem_findAll (leavesEnd_readMarked isMark) found
    obtain ⟨opening, closing, rfl, marks⟩ := (readMarked_iff unlettered).mp reads
    exact ⟨kept, before, opening, closing, rest, rfl, marks⟩
  complete name before kept marked apart :=
    Distinct.mem_addAll.mpr (.inr (List.mem_filter.mpr ⟨mem_findAll_readMarked unlettered marked apart, kept⟩))

theorem gathers_findAll (unlettered : ∀ c, isMark c = true → isWord c = false) (s : List Char) :
    Gathers isMark s (fun _ => True) (Distinct.ofList (findAll (readMarked isMark) none s)) := by
  have all : (findAll (readMarked isMark) none s).filter (fun _ => true) = findAll (readMarked isMark) none s :=
    List.filter_eq_self.mpr fun _ _ => rfl
  have gathers := gathers_filter unlettered s fun _ => true
  rw [all] at gathers
  exact ⟨gathers.nodup, fun name member => ⟨trivial, (gathers.sound name member).2⟩,
    fun name before _ => gathers.complete name before rfl⟩

/-- What stands around a word that is a step of a path or in quotes. -/
def isStepMark (c : Char) : Bool := isQuote c || c == '/'

theorem isWord_of_isStepMark (c : Char) (mark : isStepMark c = true) : isWord c = false := by
  obtain (rfl | rfl) | rfl : (c = '\x27' ∨ c = '\x22') ∨ c = '/' := by simpa [isStepMark, isQuote] using mark
  · decide
  · decide
  · decide

theorem isWord_of_isQuote (c : Char) (mark : isQuote c = true) : isWord c = false :=
  isWord_of_isStepMark c (by rw [isStepMark, mark, Bool.true_or])

end Marks

section Brackets

/-- A text that begins with square brackets around something. -/
def Brackets (s inside : List Char) : Prop :=
  ∃ rest, s = '[' :: (inside ++ ']' :: rest) ∧ inside ≠ [] ∧ ']' ∉ inside

variable {c : Char} {s inside : List Char}

theorem brackets_cons_iff : Brackets (c :: s) inside ↔
    c = '[' ∧ inside = s.takeWhile (· != ']') ∧ inside ≠ [] ∧ inside.length < s.length := by
  constructor
  · rintro ⟨rest, same, nonempty, open'⟩
    obtain ⟨rfl, rfl⟩ := List.cons.inj same
    have taken : (inside ++ ']' :: rest).takeWhile (· != ']') = inside := by
      have within : ∀ c ∈ inside, (c != ']') = true := fun c member => bne_iff_ne.mpr fun same => open' (same ▸ member)
      rw [List.takeWhile_append_of_pos within, List.takeWhile_cons_of_neg (by simp), List.append_nil]
    exact ⟨rfl, taken.symm, nonempty, by simp⟩
  · rintro ⟨rfl, rfl, nonempty, shorter⟩
    have whole : s.takeWhile (· != ']') ++ s.dropWhile (· != ']') = s := List.takeWhile_append_dropWhile
    cases behind : s.dropWhile (· != ']') with
    | nil =>
      rw [behind, List.append_nil] at whole
      exact absurd shorter (by rw [whole]; exact Nat.lt_irrefl _)
    | cons d rest =>
      have closing := List.head?_dropWhile_not (· != ']') s
      rw [behind] at closing whole
      obtain rfl : d = ']' := by simpa using closing
      exact ⟨rest, by rw [whole], nonempty, fun member => absurd (List.mem_takeWhile_imp member) (by simp)⟩

theorem firstBrackets?_cons_of_brackets (brackets : Brackets (c :: s) inside) :
    firstBrackets? (c :: s) = some inside := by
  obtain ⟨rfl, rfl, nonempty, shorter⟩ := brackets_cons_iff.mp brackets
  simp [firstBrackets?, nonempty, shorter]

theorem firstBrackets?_cons_of_none (none : ∀ inside, ¬ Brackets (c :: s) inside) :
    firstBrackets? (c :: s) = firstBrackets? s := by
  have here := none (s.takeWhile (· != ']'))
  rw [brackets_cons_iff] at here
  rw [firstBrackets?, if_neg]
  simpa using here

/-- Nothing is found where no brackets stand around something. -/
theorem firstBrackets?_eq_none_iff :
    firstBrackets? s = none ↔ ∀ behind, behind <:+ s → ∀ inside, ¬ Brackets behind inside := by
  induction s with
  | nil =>
    refine iff_of_true rfl fun behind last inside => ?_
    rintro ⟨rest, rfl, _⟩
    exact absurd (List.suffix_nil.mp last) (List.cons_ne_nil _ _)
  | cons c s ih =>
    by_cases here : ∃ inside, Brackets (c :: s) inside
    · obtain ⟨inside, brackets⟩ := here
      rw [firstBrackets?_cons_of_brackets brackets]
      exact iff_of_false (by simp) fun none => none _ List.suffix_rfl inside brackets
    · have none := not_exists.mp here
      rw [firstBrackets?_cons_of_none none, ih]
      constructor
      · intro later behind last inside
        rcases List.suffix_cons_iff.mp last with rfl | last
        · exact none inside
        · exact later behind last inside
      · exact fun all behind last => all behind (last.trans (List.suffix_cons c s))

/-- The brackets that are found are the first ones around something. -/
theorem exists_of_firstBrackets? (found : firstBrackets? s = some inside) :
    ∃ behind, behind <:+ s ∧ Brackets behind inside ∧
      ∀ other, other <:+ s → behind.length < other.length → ∀ inside, ¬ Brackets other inside := by
  induction s with
  | nil => cases found
  | cons c s ih =>
    by_cases here : ∃ inside, Brackets (c :: s) inside
    · obtain ⟨inside', brackets⟩ := here
      rw [firstBrackets?_cons_of_brackets brackets] at found
      cases found
      refine ⟨c :: s, List.suffix_rfl, brackets, fun other last longer => ?_⟩
      exact absurd last.length_le (Nat.not_le_of_lt longer)
    · have none := not_exists.mp here
      rw [firstBrackets?_cons_of_none none] at found
      obtain ⟨behind, last, brackets, first⟩ := ih found
      refine ⟨behind, last.trans (List.suffix_cons c s), brackets, fun other inText longer => ?_⟩
      rcases List.suffix_cons_iff.mp inText with rfl | inText
      · exact none
      · exact first other inText longer

end Brackets

section Lists

variable {text inside : List Char}

/-- What introduces a list of applications. -/
def mention : List Char := "backend_apps".toList

/-- Whether brackets around something stand anywhere behind a mention of a list of applications. -/
def Lists (text inside : List Char) : Prop :=
  ∃ lead rest behind, text = lead ++ (mention ++ rest) ∧ behind <:+ rest ∧ Brackets behind inside

/-- Whether brackets around something are the first ones behind the first mention of a list of applications. -/
def ListsFirst (text inside : List Char) : Prop :=
  ∃ lead rest behind, text = lead ++ (mention ++ rest) ∧ (∀ i < lead.length, ¬ mention <+: text.drop i) ∧
    behind <:+ rest ∧ Brackets behind inside ∧
      ∀ other, other <:+ rest → behind.length < other.length → ∀ inside, ¬ Brackets other inside

theorem ListsFirst.subset (first : ListsFirst text inside) : inside ⊆ text := by
  obtain ⟨lead, rest, behind, rfl, _, last, ⟨tail, rfl, _⟩, _⟩ := first
  intro c member
  have within : c ∈ rest := last.subset (List.mem_cons_of_mem _ (List.mem_append_left _ member))
  exact List.mem_append_right _ (List.mem_append_right _ within)

/-- What stands behind any mention stands behind the first one. -/
theorem suffix_of_first {needle lead rest lead' rest' : List Char}
    (first : ∀ i < lead.length, ¬ needle <+: (lead ++ (needle ++ rest)).drop i)
    (again : lead ++ (needle ++ rest) = lead' ++ (needle ++ rest')) : rest' <:+ rest := by
  have later : lead.length ≤ lead'.length := by
    by_contra early
    refine first lead'.length (Nat.lt_of_not_le early) ?_
    rw [again, List.drop_left]
    exact List.prefix_append _ _
  have lengths := congrArg List.length again
  simp only [List.length_append] at lengths
  have whole : rest' <:+ lead ++ (needle ++ rest) := ⟨lead' ++ needle, by rw [again, List.append_assoc]⟩
  exact List.suffix_of_suffix_length_le whole ⟨lead ++ needle, List.append_assoc ..⟩ (by omega)

theorem declared?_eq_none_iff : declared? text = none ↔ ∀ inside, ¬ Lists text inside := by
  change (cut? mention text).bind _ = none ↔ _
  cases cut : cut? mention text with
  | none =>
    have absent := cut?_eq_none_iff.mp cut
    refine iff_of_true rfl ?_
    rintro inside ⟨lead, rest, _, rfl, _⟩
    exact absent ⟨lead, rest, List.append_assoc ..⟩
  | some parts =>
    obtain ⟨lead, rest⟩ := parts
    obtain ⟨rfl, first⟩ := cut?_eq_some_iff.mp cut
    have bracketless : (firstBrackets? rest).bind (fun inside =>
        some (Distinct.ofList (findAll (readMarked isQuote) none inside))) = none ↔ firstBrackets? rest = none := by
      cases firstBrackets? rest <;> simp
    refine bracketless.trans (firstBrackets?_eq_none_iff.trans ⟨?_, ?_⟩)
    · rintro none inside ⟨lead', rest', behind, again, last, brackets⟩
      exact none behind (last.trans (suffix_of_first first again)) inside brackets
    · exact fun none behind last inside brackets => none inside ⟨lead, rest, behind, rfl, last, brackets⟩

theorem exists_of_declared? {names : List String} (declared : declared? text = some names) :
    ∃ inside, ListsFirst text inside ∧ names = Distinct.ofList (findAll (readMarked isQuote) none inside) := by
  obtain ⟨⟨lead, rest⟩, cut, listed⟩ := Option.bind_eq_some_iff.mp declared
  obtain ⟨inside, found, listed⟩ := Option.bind_eq_some_iff.mp listed
  obtain ⟨split, first⟩ := cut?_eq_some_iff.mp cut
  obtain ⟨behind, last, brackets, earlier⟩ := exists_of_firstBrackets? found
  exact ⟨inside, ⟨lead, rest, behind, split, first, last, brackets, earlier⟩, (Option.some.inj listed).symm⟩

end Lists

section Sources

variable {text : String} {layout : Layout}

/-- The directories of a layout that hold models, and then those that hold an application's settings. -/
def homes (layout : Layout) : List String :=
  Distinct.ofList (["models.py", "apps.py"].flatMap fun file => (nodes layout.entries).filterMap (holder? file))

theorem ofLayout_eq (layout : Layout) : ofLayout layout = homes layout := by
  rw [ofLayout, Layout.holders, Layout.holders, Distinct.addAll_ofList, holdersFrom_eq, holdersFrom_eq]
  simp only [homes, Distinct.ofList, Distinct.addAll, List.flatMap_cons, List.flatMap_nil, List.append_nil,
    List.foldl_append]

/-- The applications of a text that declares none: the directories of the layout, or else the well-known names between
marks. -/
structure FallsBack (text : List Char) (layout : Layout) (names : List String) : Prop where
  ofLayout : homes layout ≠ [] → names = homes layout
  ofText : homes layout = [] → Gathers isStepMark text (· ∈ wellKnown) names

theorem gathers_mentioned (text : List Char) : Gathers isStepMark text (· ∈ wellKnown) (mentioned text) := by
  have gathers := gathers_filter isWord_of_isStepMark text wellKnown.contains
  simp only [List.contains_iff_mem] at gathers
  exact gathers

theorem fallsBack_of_not_lists (none : ∀ inside, ¬ Lists text.toList inside) (layout : Layout) :
    FallsBack text.toList layout (find text layout) := by
  rw [find, declared?_eq_none_iff.mpr none, ofLayout_eq]
  cases found : homes layout with
  | nil => exact ⟨fun some => absurd found some, fun _ => gathers_mentioned text.toList⟩
  | cons name names => exact ⟨fun _ => found.symm, fun none => absurd (found.symm.trans none) (List.cons_ne_nil _ _)⟩

/-- A text with brackets behind a mention names the applications in the first ones, whatever the layout. -/
theorem exists_names_of_lists (lists : ∃ inside, Lists text.toList inside) :
    ∃ inside names, ListsFirst text.toList inside ∧ Gathers isQuote inside (fun _ => True) names ∧
      ∀ layout, find text layout = names := by
  cases declared : declared? text.toList with
  | none =>
    obtain ⟨inside, listed⟩ := lists
    exact absurd listed (declared?_eq_none_iff.mp declared inside)
  | some names =>
    obtain ⟨inside, first, rfl⟩ := exists_of_declared? declared
    refine ⟨inside, _, first, gathers_findAll isWord_of_isQuote inside, fun layout => ?_⟩
    rw [find, declared]

/-- A layout with one directory, which holds models. -/
def oneHome (name : String) : Layout := ⟨[(name, .directory [("models.py", .file)])]⟩

theorem homes_oneHome (name : String) : homes (oneHome name) = [name] := by
  have models : holdsFile "models.py" [("models.py", .file)] = true := by decide
  have settings : holdsFile "apps.py" [("models.py", .file)] = false := by decide
  simp [homes, oneHome, nodes, inside, List.filterMap_cons, holder?, models, settings, Distinct.ofList,
    Distinct.addAll, Distinct.add]

/-- The applications are those of the layout, or else the well-known ones of the text, for the texts in which no brackets
around something stand behind a mention of a list. In all others the first such brackets decide, whatever stands between
them and the mention. -/
theorem find_falls_back_iff (text : String) :
    ((∀ layout, FallsBack text.toList layout (find text layout)) ↔ ¬ ∃ inside, Lists text.toList inside) ∧
      ((∃ inside, Lists text.toList inside) → ∃ inside names, ListsFirst text.toList inside ∧
        Gathers isQuote inside (fun _ => True) names ∧ ∀ layout, find text layout = names) := by
  refine ⟨⟨fun always lists => ?_, fun none => fallsBack_of_not_lists (not_exists.mp none)⟩, exists_names_of_lists⟩
  obtain ⟨_, names, _, _, same⟩ := exists_names_of_lists lists
  have told (name : String) : names = [name] := by
    have back := (always (oneHome name)).ofLayout (by simp [homes_oneHome])
    rwa [same, homes_oneHome] at back
  exact absurd ((told "a").symm.trans (told "b")) (by decide)

/-- Whether a list of applications is declared: a mention of it, and an equals sign between that and a bracket. -/
def Declares (text : List Char) : Prop :=
  ∃ lead gap gap' rest, text = lead ++ (mention ++ (gap ++ '=' :: (gap' ++ '[' :: rest))) ∧
    ∀ c ∈ gap ++ gap', isBlank c = true

/-- A text that mentions the list in a sentence, with brackets behind it. -/
def prose : String := "The backend_apps are named in the tree [below].\n"

/-- Two applications, each known by one of the files that tell it. -/
def twoHomes : Layout :=
  ⟨[("loans", .directory [("models.py", .file)]), ("users", .directory [("apps.py", .file)])]⟩

theorem homes_twoHomes : homes twoHomes = ["loans", "users"] := by decide

/-- A mention in a sentence hides the applications of the layout. -/
theorem prose_hides_layout : ¬ ∀ (text : String) (layout : Layout), ¬ Declares text.toList →
    FallsBack text.toList layout (find text layout) := by
  intro always
  have undeclared : ¬ Declares prose.toList := by
    rintro ⟨lead, gap, gap', rest, split, _⟩
    have equals : '=' ∈ prose.toList := by
      rw [split]
      simp
    exact absurd equals (by decide)
  have listed : Lists prose.toList "below".toList :=
    ⟨"The ".toList, " are named in the tree [below].\n".toList, "[below].\n".toList, by decide,
      ⟨" are named in the tree ".toList, by decide⟩, ".\n".toList, by decide, by decide, by decide⟩
  obtain ⟨inside, names, first, gathers, same⟩ := exists_names_of_lists ⟨_, listed⟩
  have back := (always prose twoHomes undeclared).ofLayout (by simp [homes_twoHomes])
  rw [same, homes_twoHomes] at back
  obtain ⟨_, before, opening, _, _, whole, quote, _⟩ := gathers.sound "loans" (by simp [back])
  have quoteless : prose.toList.any isQuote = false := by decide
  have within : opening ∈ inside := by
    rw [whole]
    simp
  exact List.any_eq_false.mp quoteless opening (first.subset within) quote

end Sources

end Plumbline.Applications
