import Mathlib.Data.List.Perm.Subperm
import Plumbline.Blueprint.Extraction
import Plumbline.Proofs.Blueprint.Relations
import Plumbline.Proofs.Blueprint.RoundTrip
import Plumbline.Proofs.Pattern

namespace Plumbline

open PathPattern (IsPlain)

namespace LayoutNode

/-- A directory that holds a file stands in the layout or further down in it. -/
theorem exists_of_mem_holdersFrom {file name : String} {entries : Entries} (member : name ∈ holdersFrom file entries) :
    ∃ other inner, (other, directory inner) ∈ entries ∧ (name = other ∨ name ∈ holdersFrom file inner) := by
  induction entries with
  | nil => exact absurd member List.not_mem_nil
  | cons entry rest ih =>
    obtain ⟨other, node⟩ := entry
    rw [holdersFrom, List.mem_append] at member
    rcases member with here | later
    · cases node with
      | file => exact absurd here List.not_mem_nil
      | directory inner =>
        rw [holdersOf, List.mem_append] at here
        refine ⟨other, inner, List.mem_cons_self, here.imp_left fun alone => ?_⟩
        split at alone
        · exact List.mem_singleton.mp alone
        · exact absurd alone List.not_mem_nil
    · obtain ⟨other, inner, inRest, either⟩ := ih later
      exact ⟨other, inner, List.mem_cons_of_mem _ inRest, either⟩

/-- What holds of all names in a layout holds of the directories that hold a file. -/
theorem forall_mem_holdersFrom {P : String → Prop} {file : String} {entries : Entries} (named : Named P entries) :
    ∀ name ∈ holdersFrom file entries, P name := by
  induction named with
  | intro here _ ih =>
    intro name member
    obtain ⟨other, inner, inside, either⟩ := exists_of_mem_holdersFrom member
    rcases either with rfl | below
    · exact here _ inside
    · exact ih other inner inside name below

end LayoutNode

namespace Diagram

open LayoutNode Text

theorem isPlain_of_isNameChar {c : Char} (named : isNameChar c = true) : Glob.isPlain c = true :=
  Glob.isPlain_of_class (by decide) named

/-- What holds of the names of all entries holds of all names in the layout of a diagram. -/
theorem named_of_entries {P : String → Prop} {text : String}
    (each : ∀ line ∈ lines text.toList, ∀ entry ∈ entryOf? line, P entry.name) : Named P (parse text).entries := by
  refine throughout_parse text (by simp) ?_ ?_
  · intro line inText new entries atLine here entry member
    rcases NameMap.mem_insertEntry member with rfl | old
    · exact each line inText new atLine
    · exact here entry old
  · intro entries step inner changed here atStep entry member
    rcases NameMap.mem_insertEntry member with rfl | old
    · exact here (step, directory inner) (NameMap.mem_of_lookup atStep)
    · exact here entry old

theorem named_parse (text : String) : Named IsPlain (parse text).entries :=
  named_of_entries fun _ _ _ atLine c inside => isPlain_of_isNameChar (isNameChar_of_entryOf? atLine c inside)

theorem isPlain_of_mem_holders {text file name : String} (member : name ∈ (parse text).holders file) :
    IsPlain name := by
  have held : name ∈ holdersFrom file (parse text).entries :=
    (Distinct.mem_addAll.mp member).resolve_left List.not_mem_nil
  exact forall_mem_holdersFrom (named_parse text) name held

end Diagram

namespace Applications

open Text

theorem isPlain_of_isWord {c : Char} (word : isWord c = true) : Glob.isPlain c = true :=
  Glob.isPlain_of_class (by decide) word

theorem readMarked_eq_some {isMark : Char → Bool} {before : Option Char} {s rest : List Char} {name : String}
    (reads : readMarked isMark before s = some (name, rest)) :
    rest <:+ s ∧ ∃ word, name = String.ofList word ∧ ∀ c ∈ word, isWord c = true := by
  cases s with
  | nil => cases reads
  | cons c s =>
    simp only [readMarked] at reads
    split at reads
    · cases reads
    · obtain ⟨⟨word, behind⟩, found, reads⟩ := Option.bind_eq_some_iff.mp reads
      obtain ⟨whole, _, words⟩ := some?_eq_some found
      cases behind with
      | nil => cases reads
      | cons d behind =>
        dsimp only at reads
        split at reads
        · obtain ⟨rfl, rfl⟩ := Prod.mk.inj (Option.some.inj reads)
          exact ⟨⟨c :: word ++ [d], by simp [whole]⟩, word, rfl, words⟩
        · cases reads

theorem leavesEnd_readMarked (isMark : Char → Bool) : Reader.LeavesEnd (readMarked isMark) :=
  fun reads => (readMarked_eq_some reads).1

theorem isPlain_of_mem_declared? {text : List Char} {names : List String} (declared : declared? text = some names)
    {name : String} (member : name ∈ names) : IsPlain name := by
  obtain ⟨⟨_, rest⟩, _, listed⟩ := Option.bind_eq_some_iff.mp declared
  obtain ⟨inside, _, listed⟩ := Option.bind_eq_some_iff.mp listed
  rw [← Option.some.inj listed] at member
  have found := (Distinct.mem_addAll.mp member).resolve_left List.not_mem_nil
  obtain ⟨_, _, _, _, reads⟩ := mem_findAll (leavesEnd_readMarked isQuote) found
  obtain ⟨_, word, rfl, words⟩ := readMarked_eq_some reads
  rw [IsPlain, String.toList_ofList]
  exact fun c inWord => isPlain_of_isWord (words c inWord)

theorem isPlain_of_mem_mentioned {text : List Char} {name : String} (member : name ∈ mentioned text) :
    IsPlain name := by
  have known := (Distinct.mem_addAll.mp member).resolve_left List.not_mem_nil
  have plain : ∀ name ∈ wellKnown, IsPlain name := by decide
  exact plain name (List.contains_iff_mem.mp (List.mem_filter.mp known).2)

theorem isPlain_of_mem_ofLayout {text name : String} (member : name ∈ ofLayout (Diagram.parse text)) :
    IsPlain name :=
  (Distinct.mem_addAll.mp member).elim Diagram.isPlain_of_mem_holders Diagram.isPlain_of_mem_holders

end Applications

namespace Blueprint

variable {name : String}

/-- The layout of a blueprint is empty or read off a diagram. -/
theorem exists_layout_eq (document : Document) : ∃ text, (layout document).1 = Diagram.parse text := by
  have blank : Layout.empty = Diagram.parse "" := by
    have none : Text.lines "".toList = [] := by decide
    rw [Diagram.parse, none]
    rfl
  simp only [layout]
  split
  · exact ⟨"", blank⟩
  · split
    · exact ⟨"", blank⟩
    · split
      · exact ⟨_, rfl⟩
      · exact ⟨"", blank⟩

section Extract

variable (text : String)

theorem apps_extract :
    (extract text).spec.apps = Applications.find text (layout (Document.ofText text)).1 := by
  simp only [extract]

theorem dockerFiles_extract : (extract text).spec.dockerFiles = Mention.find Mention.containers text := by
  simp only [extract]

theorem contentExpectations_extract :
    (extract text).spec.contentExpectations = contentExpectations (extract text).spec.multiTenancy
      (extract text).spec.database := by
  simp only [extract]

end Extract

/-- However a blueprint names its applications, their names mean nothing but themselves in a pattern. -/
theorem isPlain_of_mem_apps {text : String} (member : name ∈ (extract text).spec.apps) : IsPlain name := by
  obtain ⟨drawing, drawn⟩ := exists_layout_eq (Document.ofText text)
  rw [apps_extract, drawn, Applications.find] at member
  split at member
  · rename_i names declared
    exact Applications.isPlain_of_mem_declared? declared member
  · split at member
    · exact Applications.isPlain_of_mem_mentioned member
    · exact Applications.isPlain_of_mem_ofLayout member

theorem exists_mention_of_mem_dockerFiles {text : String} (member : name ∈ (extract text).spec.dockerFiles) :
    ∃ mention ∈ Mention.containers, mention.name = name := by
  rw [dockerFiles_extract] at member
  obtain ⟨mention, mentioned, rfl⟩ := List.mem_map.mp member
  exact ⟨mention, List.mem_of_mem_filter mentioned, rfl⟩

theorem fault?_of_mem_dockerFiles {text : String} (member : name ∈ (extract text).spec.dockerFiles) :
    PathPattern.fault? name = none := by
  have compiles : ∀ mention ∈ Mention.containers, PathPattern.fault? mention.name = none := by decide +kernel
  obtain ⟨mention, listed, rfl⟩ := exists_mention_of_mem_dockerFiles member
  exact compiles mention listed

/-- Only three files are expected to have a certain content. -/
theorem mem_keys_contentExpectations {multiTenancy : Bool} {database : String}
    (member : name ∈ (contentExpectations multiTenancy database).keys) :
    name ∈ ["settings.py", "models.py", "pyproject.toml"] := by
  have named := NameMap.mem_keys_ofList.mp member
  cases multiTenancy with
  | true => exact named
  | false =>
    rcases List.mem_cons.mp named with rfl | last
    · exact List.mem_cons_self
    · exact List.mem_cons_of_mem _ (List.mem_cons_of_mem _ last)

theorem keys_contentExpectations_subperm (multiTenancy : Bool) (database : String) :
    List.Subperm (contentExpectations multiTenancy database).keys ["settings.py", "models.py", "pyproject.toml"] :=
  List.Nodup.subperm (NameMap.nodup_of_increasing (NameMap.increasing _)) fun _ => mem_keys_contentExpectations

theorem fault?_of_mem_contentExpectations {multiTenancy : Bool} {database : String} {expectations : List String}
    (member : (name, expectations) ∈ (contentExpectations multiTenancy database).entries) :
    PathPattern.fault? name = none := by
  have compiles : ∀ file ∈ ["settings.py", "models.py", "pyproject.toml"], PathPattern.fault? file = none := by
    decide +kernel
  exact compiles name (mem_keys_contentExpectations (List.mem_map_of_mem (f := Prod.fst) member))

end Blueprint

end Plumbline
