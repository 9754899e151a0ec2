import Plumbline.Proofs.Check.Totality
import Plumbline.Proofs.Text.Infix

namespace Plumbline.Check

open Source (lineDefines)
open Text

/-- Whether a line says that something is deprecated, or warns. -/
def IsMark (line : List Char) : Prop :=
  "deprecat".toList <:+: lower line ∨ "warnings.warn".toList <:+: lower line

/-- Whether a mark stands in a line of a text at most five lines away from a place. -/
def MarkedNear (rows : List (List Char)) (place : Nat) : Prop :=
  ∃ i row, rows[i]? = some row ∧ place ≤ i + 5 ∧ i ≤ place + 5 ∧ IsMark row

/-- Whether the line at a place defines a feature. -/
def DefinedAt (feature : String) (rows : List (List Char)) (place : Nat) : Prop :=
  ∃ row, rows[place]? = some row ∧ lineDefines feature.toList row = true

/-- Whether a line defines a feature that an earlier line defines already. -/
def RedefinedAt (feature : String) (rows : List (List Char)) (place : Nat) : Prop :=
  DefinedAt feature rows place ∧ ∃ earlier < place, DefinedAt feature rows earlier

/-- Whether a line is the first one to define a feature. -/
def FirstDefinedAt (feature : String) (rows : List (List Char)) (place : Nat) : Prop :=
  DefinedAt feature rows place ∧ ¬∃ earlier < place, DefinedAt feature rows earlier

section Window

variable {rows : List (List Char)} {place : Nat}

theorem marksDeprecation_iff {line : List Char} : marksDeprecation line = true ↔ IsMark line := by
  rw [marksDeprecation, Bool.or_eq_true, contains_iff, contains_iff, IsMark]

theorem mem_window_iff {start stop : Nat} {row : List Char} :
    row ∈ (rows.take stop).drop start ↔ ∃ i, start ≤ i ∧ i < stop ∧ rows[i]? = some row := by
  rw [List.mem_iff_getElem?]
  constructor
  · rintro ⟨k, found⟩
    rw [List.getElem?_drop, List.getElem?_take, Option.ite_none_right_eq_some] at found
    exact ⟨start + k, Nat.le_add_right start k, found⟩
  · rintro ⟨i, lower, upper, found⟩
    refine ⟨i - start, ?_⟩
    rw [List.getElem?_drop, Nat.add_sub_cancel' lower, List.getElem?_take, if_pos upper, found]

/-- The lines around a line of the text are asked for marks. -/
theorem markedDeprecated?_eq_some_true_iff (inside : place < rows.length) :
    markedDeprecated? rows place = some true ↔ MarkedNear rows place := by
  have window : ¬ min (place + deprecationWindow + 1) rows.length < place - deprecationWindow := by omega
  rw [markedDeprecated?, if_neg window, Option.some.injEq, List.any_eq_true]
  simp only [mem_window_iff, marksDeprecation_iff, deprecationWindow]
  constructor
  · rintro ⟨row, ⟨i, lower, upper, found⟩, mark⟩
    exact ⟨i, row, found, by omega, by omega, mark⟩
  · rintro ⟨i, row, found, lower, upper, mark⟩
    obtain ⟨within, _⟩ := List.getElem?_eq_some_iff.mp found
    exact ⟨row, ⟨i, by omega, by omega, found⟩, mark⟩

theorem DefinedAt.inside {feature : String} (defined : DefinedAt feature rows place) : place < rows.length := by
  obtain ⟨_, found, _⟩ := defined
  exact (List.getElem?_eq_some_iff.mp found).1

theorem findIdx?_lineDefines_eq_some_iff {feature : String} :
    rows.findIdx? (lineDefines feature.toList) = some place ↔ FirstDefinedAt feature rows place := by
  rw [List.findIdx?_eq_some_iff_getElem, FirstDefinedAt]
  constructor
  · rintro ⟨inside, defines, first⟩
    refine ⟨⟨_, List.getElem?_eq_getElem inside, defines⟩, ?_⟩
    rintro ⟨earlier, before, row, found, defines⟩
    obtain ⟨_, rfl⟩ := List.getElem?_eq_some_iff.mp found
    exact first earlier before defines
  · rintro ⟨defined, first⟩
    obtain ⟨row, found, defines⟩ := defined
    obtain ⟨inside, rfl⟩ := List.getElem?_eq_some_iff.mp found
    exact ⟨inside, defines, fun earlier before defines =>
      first ⟨earlier, before, _, List.getElem?_eq_getElem _, defines⟩⟩

end Window

/-- What is reported of a feature that is defined in a source without a mark near the line of this number. -/
def unmarkedIssue (feature path : String) (number : Nat) : Issue :=
  .make path "missing_deprecation_warning" s!"{feature} is deprecated but not marked"
    "warnings.warn(..., DeprecationWarning) or a deprecation notice" s!"No marker near line {number}" .medium

/-- A source is reported at the first line that defines a feature, when no mark is near it. -/
theorem deprecationIssue?_eq_some_iff {feature path text : String} {issue : Issue} :
    deprecationIssue? feature path text = some issue ↔
      ∃ place, FirstDefinedAt feature (lines text.toList) place ∧ ¬ MarkedNear (lines text.toList) place ∧
        issue = unmarkedIssue feature path (place + 1) := by
  rw [deprecationIssue?]
  cases found : (lines text.toList).findIdx? (lineDefines feature.toList) with
  | none =>
    refine iff_of_false nofun ?_
    rintro ⟨place, first, _⟩
    exact absurd (findIdx?_lineDefines_eq_some_iff.mpr first) (found ▸ nofun)
  | some place =>
    have first := findIdx?_lineDefines_eq_some_iff.mp found
    have sole {other : Nat} (first' : FirstDefinedAt feature (lines text.toList) other) : other = place :=
      Option.some.inj ((findIdx?_lineDefines_eq_some_iff.mpr first').symm.trans found)
    dsimp only
    by_cases marked : MarkedNear (lines text.toList) place
    · rw [if_pos ((markedDeprecated?_eq_some_true_iff first.1.inside).mpr marked)]
      refine iff_of_false nofun ?_
      rintro ⟨other, first', unmarked, _⟩
      exact unmarked (sole first' ▸ marked)
    · rw [if_neg (mt (markedDeprecated?_eq_some_true_iff first.1.inside).mp marked), Option.some.injEq, eq_comm]
      refine ⟨fun told => ⟨place, first, marked, told⟩, ?_⟩
      rintro ⟨other, first', _, told⟩
      rw [told, sole first']
      rfl

namespace DeprecationMarkers

/-- Whether features are looked for in a file: a Python module that is no test. -/
def IsSource (file : FoundFile) : Prop := isPython file = true ∧ isTestPath file.names = false

/-- Whether in every source that can be read a mark is near every place of a kind. -/
def EachMarked (check : DeprecationMarkers) (files : List FoundFile)
    (kind : String → List (List Char) → Nat → Prop) : Prop :=
  ∀ feature ∈ check.features, ∀ file ∈ files, IsSource file → ∀ text ∈ file.text, ∀ place,
    kind feature (lines text.toList) place → MarkedNear (lines text.toList) place

variable {check : DeprecationMarkers} {site : Site} {files : List FoundFile}

/-- A run reports every source that can be read for every feature that it defines first without a mark. -/
theorem exists_run (walked : site.walkFiles = .ok files) :
    ∃ issues, check.run site = .ok issues ∧ ∀ issue, issue ∈ issues ↔
      ∃ feature ∈ check.features, ∃ file ∈ files, IsSource file ∧ ∃ text, file.text = some text ∧
        ∃ place, FirstDefinedAt feature (lines text.toList) place ∧ ¬ MarkedNear (lines text.toList) place ∧
          issue = unmarkedIssue feature file.path (place + 1) := by
  refine ⟨_, by rw [run, walked]; rfl, fun issue => ?_⟩
  simp only [List.mem_flatMap, List.mem_filterMap, List.mem_filter, Option.map_eq_some_iff, Bool.and_eq_true,
    Bool.not_eq_true', deprecationIssue?_eq_some_iff, Prod.exists, Prod.mk.injEq]
  constructor
  · rintro ⟨feature, asked, path, text, ⟨file, ⟨member, source⟩, text, reads, rfl, rfl⟩, told⟩
    exact ⟨feature, asked, file, member, source, text, reads, told⟩
  · rintro ⟨feature, asked, file, member, source, text, reads, told⟩
    exact ⟨feature, asked, file.path, text, ⟨file, ⟨member, source⟩, text, reads, rfl, rfl⟩, told⟩

theorem run_eq_ok_nil_iff (walked : site.walkFiles = .ok files) :
    check.run site = .ok [] ↔ check.EachMarked files FirstDefinedAt := by
  obtain ⟨issues, run, reported⟩ := check.exists_run walked
  rw [run, Except.ok.injEq, List.eq_nil_iff_forall_not_mem]
  constructor
  · intro silent feature asked file member source text reads place first
    by_contra unmarked
    exact silent _ ((reported _).mpr ⟨feature, asked, file, member, source, text, reads, place, first, unmarked, rfl⟩)
  · intro marked issue told
    obtain ⟨feature, asked, file, member, source, text, reads, place, first, unmarked, _⟩ := (reported issue).mp told
    exact unmarked (marked feature asked file member source text reads place first)

/-- Every definition is the first one or comes after it. -/
theorem eachMarked_iff : check.EachMarked files DefinedAt ↔
    check.EachMarked files FirstDefinedAt ∧ check.EachMarked files RedefinedAt := by
  constructor
  · intro marked
    exact ⟨fun feature asked file member source text reads place first =>
        marked feature asked file member source text reads place first.1,
      fun feature asked file member source text reads place again =>
        marked feature asked file member source text reads place again.1⟩
  · rintro ⟨first, again⟩ feature asked file member source text reads place defined
    by_cases earlier : ∃ earlier < place, DefinedAt feature (lines text.toList) earlier
    · exact again feature asked file member source text reads place ⟨defined, earlier⟩
    · exact first feature asked file member source text reads place ⟨defined, earlier⟩

/-- Where the root is a directory, a check for marks of deprecation comes to an end, and the lines around a definition are
always there. What it passes has a mark near the first definition of every feature in every source that can be read; a mark
is near every definition just when there is one near the later definitions too. -/
theorem passes_marked_iff (check : DeprecationMarkers) (rooted : site.hasRoot = true) :
    ∃ files, site.walkFiles = .ok files ∧ (∃ issues, check.run site = .ok issues) ∧
      (∀ feature rows place, DefinedAt feature rows place → (markedDeprecated? rows place).isSome) ∧
      (check.run site = .ok [] ↔ check.EachMarked files FirstDefinedAt) ∧
      (check.EachMarked files DefinedAt ↔ check.run site = .ok [] ∧ check.EachMarked files RedefinedAt) := by
  obtain ⟨files, walked⟩ := Site.exists_walkFiles rooted
  have passes := check.run_eq_ok_nil_iff walked
  obtain ⟨issues, run, _⟩ := check.exists_run walked
  refine ⟨files, walked, ⟨issues, run⟩, fun feature rows place defined => ?_, passes, ?_⟩
  · exact isSome_markedDeprecated? defined.inside
  · rw [passes, eachMarked_iff]

/-- A module that defines a feature twice, six lines apart, with a remark at each definition. -/
def twiceText (first second : String) : String := s!"def f(): # {first}\n\n\n\n\n\ndef f(): # {second}\n"

def twiceSite (first second : String) : Site := .ofFile "m.py" (twiceText first second)

theorem hasRoot_twiceSite (first second : String) : (twiceSite first second).hasRoot = true := by
  rw [Site.hasRoot, FileSystem.isDirectory, twiceSite, Site.ofFile, FileSystem.node?_dot rfl]
  rfl

theorem walkFiles_twiceSite (first second : String) :
    (twiceSite first second).walkFiles = .ok [⟨["m.py"], some (twiceText first second)⟩] := Site.walkFiles_ofFile _ _

theorem passes_marked_on_twiceSite :
    (twiceSite "deprecated" "Deprecated").hasRoot = true ∧
      run ⟨["f"]⟩ (twiceSite "deprecated" "Deprecated") = .ok [] ∧
      ∃ files, (twiceSite "deprecated" "Deprecated").walkFiles = .ok files ∧ EachMarked ⟨["f"]⟩ files DefinedAt := by
  have rooted := hasRoot_twiceSite "deprecated" "Deprecated"
  obtain ⟨files, walked, _, _, _, everywhere⟩ := passes_marked_iff ⟨["f"]⟩ rooted
  obtain rfl := Except.ok.inj ((walkFiles_twiceSite "deprecated" "Deprecated").symm.trans walked)
  have each : EachMarked ⟨["f"]⟩ [⟨["m.py"], some (twiceText "deprecated" "Deprecated")⟩] DefinedAt := by
    rintro feature asked file member _ text reads place ⟨row, found, defines⟩
    obtain rfl := List.mem_singleton.mp asked
    obtain rfl := List.mem_singleton.mp member
    obtain rfl := Option.some.inj reads
    have remarked : ∀ row ∈ lines (twiceText "deprecated" "Deprecated").toList,
        lineDefines "f".toList row = true → marksDeprecation row = true := by decide +kernel
    have mark := remarked row (List.mem_of_getElem? found) defines
    exact ⟨place, row, found, Nat.le_add_right place 5, Nat.le_add_right place 5, marksDeprecation_iff.mp mark⟩
  exact ⟨rooted, (everywhere.mp each).1, _, walked, each⟩

/-- Of two definitions in one file only the first is asked for a mark. -/
theorem later_definition_not_asked :
    ¬ ∀ (check : DeprecationMarkers) (site : Site), site.hasRoot = true → check.run site = .ok [] →
      ∃ files, site.walkFiles = .ok files ∧ check.EachMarked files DefinedAt := by
  intro sound
  have walked := walkFiles_twiceSite "deprecated" "current"
  have passed : run ⟨["f"]⟩ (twiceSite "deprecated" "current") = .ok [] := by
    rw [run, walked]
    have silent : deprecationIssue? "f" "m.py" (twiceText "deprecated" "current") = none := by decide +kernel
    have path : FoundFile.path ⟨["m.py"], some (twiceText "deprecated" "current")⟩ = "m.py" :=
      (by decide : Path.ofSteps ["m.py"] = "m.py")
    have source : (isPython ⟨["m.py"], some (twiceText "deprecated" "current")⟩ && !isTestPath ["m.py"]) = true := by
      decide +kernel
    simp [bind, Except.bind, source, path, silent, pure, Except.pure]
  obtain ⟨files, walked', marked⟩ := sound _ _ (hasRoot_twiceSite "deprecated" "current") passed
  obtain rfl := Except.ok.inj (walked.symm.trans walked')
  have defined : DefinedAt "f" (lines (twiceText "deprecated" "current").toList) 6 :=
    ⟨_, rfl, by decide +kernel⟩
  have near := marked "f" List.mem_cons_self _ List.mem_cons_self ⟨by decide +kernel, by decide +kernel⟩ _ rfl 6 defined
  rw [← markedDeprecated?_eq_some_true_iff defined.inside] at near
  revert near
  decide +kernel

end DeprecationMarkers

end Plumbline.Check
