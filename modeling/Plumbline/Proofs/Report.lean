import Mathlib.Algebra.Ring.Nat
import Mathlib.Data.List.Perm.Subperm
import Plumbline.Proofs.Distinct
import Plumbline.Report

namespace Plumbline

/-- Issues in groups of one severity each, gravest first: every issue once, and the issues of a group in their order. -/
structure Groups (issues : List Issue) (groups : List (Severity × List Issue)) : Prop where
  descending : (groups.map Prod.fst).Sublist Severity.all
  nonempty : ∀ group ∈ groups, group.2 ≠ []
  alike : ∀ group ∈ groups, ∀ issue ∈ group.2, issue.severity = group.1
  ordered : ∀ group ∈ groups, group.2.Sublist issues
  complete : (groups.flatMap Prod.snd).Perm issues

/-- The issues of one severity. -/
def ofSeverity (issues : List Issue) (severity : Severity) : List Issue := issues.filter (·.severity == severity)

/-- The severities that issues have, gravest first. -/
def severities (issues : List Issue) : List Severity :=
  Severity.all.filter fun severity => !(ofSeverity issues severity).isEmpty

def bySeverity (issues : List Issue) : List (Severity × List Issue) :=
  (severities issues).map fun severity => (severity, ofSeverity issues severity)

section Groups

variable {issues : List Issue} {groups : List (Severity × List Issue)}

theorem Severity.mem_all (severity : Severity) : severity ∈ Severity.all := by cases severity <;> decide

theorem Category.mem_all (category : Category) : category ∈ Category.all := by cases category <;> decide

theorem mem_severities_iff {severity : Severity} :
    severity ∈ severities issues ↔ ∃ issue ∈ issues, issue.severity = severity := by
  simp [severities, ofSeverity, Severity.mem_all]

/-- Issues are put in order anew when they are taken severity by severity, but none is lost and none added. -/
theorem flatMap_ofSeverity_perm {severities : List Severity} (distinct : severities.Nodup)
    (covered : ∀ issue ∈ issues, issue.severity ∈ severities) : (severities.flatMap (ofSeverity issues)).Perm issues := by
  induction severities generalizing issues with
  | nil =>
    have none : issues = [] := List.eq_nil_iff_forall_not_mem.mpr fun issue member => by simpa using covered issue member
    rw [none, List.flatMap_nil]
  | cons severity rest ih =>
    obtain ⟨fresh, distinct⟩ := List.nodup_cons.mp distinct
    have others : rest.flatMap (ofSeverity issues) =
        rest.flatMap (ofSeverity (issues.filter fun issue => !issue.severity == severity)) := by
      refine List.flatMap_congr fun later member => ?_
      have apart : later ≠ severity := fun same => fresh (same ▸ member)
      rw [ofSeverity, ofSeverity, List.filter_filter]
      refine List.filter_congr fun issue _ => ?_
      by_cases here : issue.severity = later
      · simp [here, apart]
      · simp [here]
    have remaining := @ih (issues.filter fun issue => !issue.severity == severity) distinct fun issue member => by
      obtain ⟨listed, other⟩ := List.mem_filter.mp member
      exact (List.mem_cons.mp (covered issue listed)).resolve_left (by simpa using other)
    rw [List.flatMap_cons, others]
    exact (remaining.append_left _).trans (List.filter_append_perm (fun issue : Issue => issue.severity == severity) issues)

theorem groups_bySeverity (issues : List Issue) : Groups issues (bySeverity issues) where
  descending := by
    rw [bySeverity, List.map_map]
    exact (List.map_id (severities issues)).symm ▸ List.filter_sublist
  nonempty := by
    intro group member
    obtain ⟨severity, listed, rfl⟩ := List.mem_map.mp member
    simpa using (List.mem_filter.mp listed).2
  alike := by
    intro group member issue inside
    obtain ⟨severity, _, rfl⟩ := List.mem_map.mp member
    exact eq_of_beq (List.mem_filter.mp inside).2
  ordered := by
    intro group member
    obtain ⟨severity, _, rfl⟩ := List.mem_map.mp member
    exact List.filter_sublist
  complete := by
    have distinct : (severities issues).Nodup := List.Nodup.filter _ (by decide)
    rw [bySeverity, List.flatMap_map]
    exact flatMap_ofSeverity_perm distinct fun issue member => mem_severities_iff.mpr ⟨issue, member, rfl⟩

theorem ofSeverity_eq_nil {severity : Severity} (apart : ∀ issue ∈ issues, issue.severity ≠ severity) :
    ofSeverity issues severity = [] :=
  List.filter_eq_nil_iff.mpr fun issue member same => apart issue member (eq_of_beq same)

/-- The issues of one severity in a grouping are those of the group of that severity. -/
theorem Groups.eq_ofSeverity (grouped : Groups issues groups) {group : Severity × List Issue} (member : group ∈ groups) :
    group.2 = ofSeverity issues group.1 := by
  have own : ofSeverity group.2 group.1 = group.2 :=
    List.filter_eq_self.mpr fun issue inside => beq_iff_eq.mpr (grouped.alike group member issue inside)
  have sub : group.2.Sublist (ofSeverity issues group.1) := own ▸ (grouped.ordered group member).filter _
  have distinct : (groups.map Prod.fst).Nodup := grouped.descending.nodup (by decide)
  obtain ⟨before, behind, rfl⟩ := List.append_of_mem member
  rw [List.map_append, List.map_cons, List.nodup_middle, ← List.map_append] at distinct
  have elsewhere : ∀ issue ∈ (before ++ behind).flatMap Prod.snd, issue.severity ≠ group.1 := by
    intro issue inside same
    obtain ⟨other, there, inOther⟩ := List.mem_flatMap.mp inside
    have severity := grouped.alike other (List.perm_middle.mem_iff.mpr (List.mem_cons_of_mem group there)) issue inOther
    exact (List.nodup_cons.mp distinct).1 (same ▸ severity ▸ List.mem_map_of_mem there)
  have first : (group.2 ++ (before ++ behind).flatMap Prod.snd).Perm issues :=
    (List.perm_middle.symm.flatMap_right _).trans grouped.complete
  have counted := (first.filter (·.severity == group.1)).length_eq
  rw [List.filter_append] at counted
  change (ofSeverity group.2 group.1 ++ ofSeverity _ group.1).length = (ofSeverity issues group.1).length at counted
  rw [own, ofSeverity_eq_nil elsewhere, List.append_nil] at counted
  exact sub.eq_of_length counted

/-- Issues can be put in groups in one way only. -/
theorem Groups.eq_bySeverity (grouped : Groups issues groups) : groups = bySeverity issues := by
  have keys : groups.map Prod.fst = severities issues := by
    have sub : (groups.map Prod.fst).Sublist (severities issues) := by
      have kept : (groups.map Prod.fst).filter (fun severity => !(ofSeverity issues severity).isEmpty) =
          groups.map Prod.fst := by
        refine List.filter_eq_self.mpr fun severity listed => ?_
        obtain ⟨group, member, rfl⟩ := List.mem_map.mp listed
        simpa [← grouped.eq_ofSeverity member] using grouped.nonempty group member
      exact kept ▸ grouped.descending.filter _
    have all : (severities issues).Subperm (groups.map Prod.fst) := by
      refine List.Nodup.subperm (List.Nodup.filter _ (by decide)) fun severity listed => ?_
      obtain ⟨issue, member, rfl⟩ := mem_severities_iff.mp listed
      obtain ⟨group, there, inside⟩ := List.mem_flatMap.mp (grouped.complete.mem_iff.mpr member)
      exact grouped.alike group there issue inside ▸ List.mem_map_of_mem there
    exact sub.eq_of_length_le all.length_le
  rw [bySeverity, ← keys, List.map_map]
  refine (List.map_id groups).symm.trans (List.map_congr_left fun group member => ?_)
  exact Prod.ext rfl (grouped.eq_ofSeverity member)

/-- A group holds as many issues as a run counts of that severity. -/
theorem Groups.length_eq_countSeverity {tally : Tally} (grouped : Groups tally.issues groups)
    {group : Severity × List Issue} (member : group ∈ groups) : group.2.length = tally.countSeverity group.1 := by
  rw [grouped.eq_ofSeverity member, ofSeverity, Tally.countSeverity, List.countP_eq_length_filter]

/-- Every issue of a run is counted under one severity. -/
theorem Tally.sum_countSeverity (tally : Tally) : (Severity.all.map tally.countSeverity).sum = tally.issues.length := by
  have parted : (Severity.all.flatMap (ofSeverity tally.issues)).Perm tally.issues :=
    flatMap_ofSeverity_perm (by decide) fun issue _ => Severity.mem_all issue.severity
  rw [← parted.length_eq, List.length_flatMap]
  exact congrArg List.sum (List.map_congr_left fun severity _ => List.countP_eq_length_filter)

end Groups

namespace Report

/-- Lines as a text, each with its end. -/
def textOf (lines : List String) : String := String.join (lines.map (· ++ "\n"))

/-- A group of issues under a heading that tells its severity and how many there are. -/
def groupLines (group : Severity × List Issue) : List String :=
  "" :: (group.1.label ++ " (" ++ toString group.2.length ++ ")") :: group.2.flatMap issueLines

theorem flatMap_severityLines (issues : List Issue) :
    Severity.all.flatMap (severityLines issues) = (bySeverity issues).flatMap groupLines := by
  have each (severities : List Severity) : severities.flatMap (severityLines issues) =
      ((severities.filter fun severity => !(ofSeverity issues severity).isEmpty).map fun severity =>
        (severity, ofSeverity issues severity)).flatMap groupLines := by
    induction severities with
    | nil => rfl
    | cons severity rest ih =>
      rw [List.flatMap_cons, ih]
      by_cases none : (ofSeverity issues severity).isEmpty = true
      · rw [List.filter_cons_of_neg (by simp [none]), severityLines]
        exact congrArg (· ++ _) (if_pos none)
      · rw [List.filter_cons_of_pos (by simpa using none), List.map_cons, List.flatMap_cons, severityLines]
        exact congrArg (· ++ _) (if_neg none)
  exact each Severity.all

section Listing

variable {profile : Profile Float} {listed : List Category}

/-- A listing of the categories: each of the five once, and first those in focus, in the order in which they are named. -/
structure Lists (profile : Profile Float) (listed : List Category) : Prop where
  complete : listed.Perm Category.all
  focusFirst : profile.focusCategories.eraseDups <+: listed

/-- The categories that are not in focus, in the order of reports. -/
def unfocused (profile : Profile Float) : List Category :=
  Category.all.filter fun category => !profile.focusCategories.contains category

theorem nodup_unfocused : (unfocused profile).Nodup := List.Nodup.filter _ (by decide)

theorem mem_unfocused_iff {category : Category} :
    category ∈ unfocused profile ↔ category ∉ profile.focusCategories := by
  simp [unfocused, Category.mem_all]

/-- A category is listed as often as it is named, and once if it is not. -/
theorem count_order (category : Category) :
    (order profile).count category = max 1 (profile.focusCategories.count category) := by
  change (profile.focusCategories ++ unfocused profile).count category = _
  rw [List.count_append]
  by_cases named : category ∈ profile.focusCategories
  · have rest : (unfocused profile).count category = 0 :=
      List.count_eq_zero.mpr fun member => mem_unfocused_iff.mp member named
    have some : 0 < profile.focusCategories.count category := List.count_pos_iff.mpr named
    omega
  · have none : profile.focusCategories.count category = 0 := List.count_eq_zero.mpr named
    have rest : (unfocused profile).count category = 1 :=
      List.count_eq_one_of_mem nodup_unfocused (mem_unfocused_iff.mpr named)
    omega

theorem nodup_eraseDups {α : Type} [BEq α] [LawfulBEq α] (items : List α) : items.eraseDups.Nodup := by
  rw [← Distinct.ofList_eq_eraseDups]
  exact Distinct.nodup_addAll .nil items

theorem eraseDups_of_nodup {α : Type} [BEq α] [LawfulBEq α] {items : List α} (distinct : items.Nodup) :
    items.eraseDups = items := by
  induction items with
  | nil => rfl
  | cons a items ih =>
    obtain ⟨fresh, distinct⟩ := List.nodup_cons.mp distinct
    have others : (items.filter fun b => !b == a) = items :=
      List.filter_eq_self.mpr fun b member => by simpa using fun same : b = a => fresh (same ▸ member)
    rw [List.eraseDups_cons, others, ih distinct]

/-- Without the repetitions among those in focus, the categories make a listing. -/
theorem lists_once (profile : Profile Float) : Lists profile (profile.focusCategories.eraseDups ++ unfocused profile) where
  complete := by
    have apart : profile.focusCategories.eraseDups.Disjoint (unfocused profile) := fun category named other =>
      mem_unfocused_iff.mp other (List.mem_eraseDups.mp named)
    refine (List.perm_ext_iff_of_nodup ((nodup_eraseDups _).append nodup_unfocused apart) (by decide)).mpr fun category => ?_
    rw [List.mem_append, List.mem_eraseDups, mem_unfocused_iff]
    exact iff_of_true (Classical.em _) (Category.mem_all category)
  focusFirst := List.prefix_append _ _

end Listing

section Text

theorem length_textOf (lines : List String) : (textOf lines).length = (lines.map fun line => line.length + 1).sum := by
  induction lines with
  | nil => rfl
  | cons line rest ih =>
    have first : textOf (line :: rest) = line ++ "\n" ++ textOf rest := String.join_cons
    have ending : "\n".length = 1 := rfl
    rw [first, String.length_append, String.length_append, ih, ending, List.map_cons, List.sum_cons]

/-- Items that are left out are missing in the sum of what all weigh. -/
theorem eq_or_sum_lt_of_sublist {α : Type} (weight : α → Nat) (positive : ∀ a, 0 < weight a) {fewer more : List α}
    (sub : fewer.Sublist more) : fewer = more ∨ (fewer.map weight).sum < (more.map weight).sum := by
  induction sub with
  | slnil => exact .inl rfl
  | cons a _ ih =>
    have here := positive a
    rw [List.map_cons, List.sum_cons]
    rcases ih with rfl | less
    · exact .inr (by omega)
    · exact .inr (by omega)
  | cons_cons a _ ih =>
    rw [List.map_cons, List.map_cons, List.sum_cons, List.sum_cons]
    exact ih.imp (congrArg (a :: ·)) (Nat.add_lt_add_left · (weight a))

end Text

section Render

variable (title profileName : String) (profile : Profile Float) (results : Results Float) (verdict : Verdict Float)
  (skipped : List String)

/-- What a report begins with: all that stands above the categories. -/
def opening : List String :=
  [title, underline title, s!"Profile: {profileName} (threshold " ++ wholePercent profile.minScoreThreshold ++ ")",
    "Checks: " ++ toString results.total ++ " total, " ++ toString results.passed ++ " passed, " ++
      toString results.failed ++ " failed"] ++
  (if skipped.isEmpty then [] else ["Skipped: " ++ ", ".intercalate skipped]) ++
  ["Score: " ++ exactPercent results.score ++ " [" ++ status results.score ++ "]", "", "Issues by category:"]

/-- The report that lists these categories and has its issues in these groups. -/
def layOut (listed : List Category) (groups : List (Severity × List Issue)) : String :=
  textOf (opening title profileName profile results skipped ++ listed.map (categoryLine profile results.categories) ++
    groups.flatMap groupLines ++ ["", verdictLine verdict])

theorem render_eq_layOut : render title profileName profile results verdict skipped =
    layOut title profileName profile results verdict skipped (order profile) (bySeverity results.issues) := by
  rw [layOut, ← flatMap_severityLines]
  rfl

/-- A report in which nothing is lost and nothing told twice: it lists each category once, those in focus first, and then
the issues in groups. -/
def IsComplete (text : String) : Prop := ∃ listed groups, Lists profile listed ∧ Groups results.issues groups ∧
  text = layOut title profileName profile results verdict skipped listed groups

variable {title profileName profile results verdict skipped}

/-- How much of a report the line of a category takes. -/
def lineLength (profile : Profile Float) (results : Results Float) (category : Category) : Nat :=
  (categoryLine profile results.categories category).length + 1

theorem sum_lineLength_eq {listed listed' : List Category} {groups : List (Severity × List Issue)}
    (same : layOut title profileName profile results verdict skipped listed groups =
      layOut title profileName profile results verdict skipped listed' groups) :
    (listed.map (lineLength profile results)).sum = (listed'.map (lineLength profile results)).sum := by
  have lengths := congrArg String.length same
  simp only [layOut, length_textOf, List.map_append, List.sum_append_nat, List.map_map] at lengths
  change _ + (listed.map (lineLength profile results)).sum + _ + _ =
    _ + (listed'.map (lineLength profile results)).sum + _ + _ at lengths
  omega

theorem nodup_of_isComplete (complete : IsComplete title profileName profile results verdict skipped
    (render title profileName profile results verdict skipped)) : profile.focusCategories.Nodup := by
  obtain ⟨listed, groups, lists, grouped, same⟩ := complete
  rw [render_eq_layOut, grouped.eq_bySeverity] at same
  have once : listed.Perm (profile.focusCategories.eraseDups ++ unfocused profile) :=
    lists.complete.trans (lists_once profile).complete.symm
  have sums : ((profile.focusCategories ++ unfocused profile).map (lineLength profile results)).sum =
      ((profile.focusCategories.eraseDups ++ unfocused profile).map (lineLength profile results)).sum :=
    (sum_lineLength_eq same).trans (once.map _).sum_nat
  rw [List.map_append, List.map_append, List.sum_append_nat, List.sum_append_nat, Nat.add_right_cancel_iff] at sums
  have named : profile.focusCategories.eraseDups ⊆ profile.focusCategories := fun _ member => List.mem_eraseDups.mp member
  obtain ⟨kept, perm, sub⟩ := (nodup_eraseDups profile.focusCategories).subperm named
  rcases eq_or_sum_lt_of_sublist (lineLength profile results) (fun _ => Nat.succ_pos _) sub with rfl | less
  · exact perm.nodup_iff.mpr (nodup_eraseDups _)
  · rw [(perm.map _).sum_nat] at less
    omega

end Render

section Line

variable {profile : Profile Float} {table table' : PerCategory Nat} {category category' : Category}

theorem length_padded_label (category : Category) : (padded 13 category.label).length = 13 := by cases category <;> decide

theorem padded_label_injective (same : padded 13 category.label = padded 13 category'.label) : category = category' := by
  have apart : ∀ c ∈ Category.all, ∀ c' ∈ Category.all, padded 13 c.label = padded 13 c'.label → c = c' := by decide
  exact apart _ (Category.mem_all _) _ (Category.mem_all _) same

/-- What may stand behind a count is no digit. -/
theorem takeWhile_isDigit_count (n : Nat) (isRequired : Bool) :
    ((toString n).toList ++ (if isRequired then "  (required)" else "").toList).takeWhile Char.isDigit =
      Nat.toDigits 10 n := by
  have digits : ∀ c ∈ Nat.toDigits 10 n, c.isDigit = true := fun c member =>
    Nat.isDigit_of_mem_toDigits (by decide) (by decide) member
  have behind : (if isRequired then "  (required)" else "").toList.takeWhile Char.isDigit = [] := by
    cases isRequired <;> decide
  rw [Nat.toString_eq_ofList_toDigits, String.toList_ofList, List.takeWhile_append_of_pos digits, behind,
    List.append_nil]

/-- The line of a category tells which one it is, and its count. -/
theorem eq_of_categoryLine_eq
    (same : categoryLine profile table category = categoryLine profile table' category') :
    category = category' ∧ table.of category = table'.of category' := by
  have chars := congrArg String.toList same
  simp only [categoryLine, String.toList_append, List.append_assoc] at chars
  obtain ⟨label, behind⟩ := List.append_inj (List.append_cancel_left chars)
    (by rw [String.length_toList, String.length_toList, length_padded_label, length_padded_label])
  refine ⟨padded_label_injective (String.toList_injective label), ?_⟩
  have digits := congrArg (List.takeWhile Char.isDigit) (List.append_cancel_left behind)
  rw [takeWhile_isDigit_count, takeWhile_isDigit_count] at digits
  rw [← Nat.ofDigitChars_ten_toDigits (n := table.of category), digits, Nat.ofDigitChars_ten_toDigits]

end Line

/-- Every report shows each issue once, in the group of its severity, and each category as often as the profile has it in
focus, but at least once, those in focus first. It lists each category once just when the profile names none twice. -/
theorem isComplete_render_iff (title profileName : String) (profile : Profile Float) (results : Results Float)
    (verdict : Verdict Float) (skipped : List String) :
    (∃ listed groups, render title profileName profile results verdict skipped =
        layOut title profileName profile results verdict skipped listed groups ∧ Groups results.issues groups ∧
      profile.focusCategories <+: listed ∧
      ∀ category, listed.count category = max 1 (profile.focusCategories.count category)) ∧
    (∀ table table' category category',
      categoryLine profile table category = categoryLine profile table' category' →
        category = category' ∧ table.of category = table'.of category') ∧
    (IsComplete title profileName profile results verdict skipped
      (render title profileName profile results verdict skipped) ↔ profile.focusCategories.Nodup) := by
  refine ⟨⟨order profile, bySeverity results.issues, render_eq_layOut .., groups_bySeverity _, List.prefix_append _ _,
    count_order⟩, fun _ _ _ _ => eq_of_categoryLine_eq, nodup_of_isComplete, fun distinct => ?_⟩
  have lists := lists_once profile
  rw [eraseDups_of_nodup distinct] at lists
  exact ⟨_, _, lists, groups_bySeverity _, render_eq_layOut ..⟩

/-- A category that is named twice as one in focus is listed twice. -/
theorem listed_twice_when_named_twice :
    let profile : Profile Float := { Profile.default with focusCategories := [.models, .models] }
    (order profile).count .models = 2 ∧
      ¬ ∀ (title profileName : String) (results : Results Float) (verdict : Verdict Float) (skipped : List String),
        IsComplete title profileName profile results verdict skipped
          (render title profileName profile results verdict skipped) := by
  intro profile
  refine ⟨count_order _, fun complete => ?_⟩
  have distinct := nodup_of_isComplete (complete "" "" { Tally.empty with score := 100 } (.compare 100 75) [])
  exact absurd distinct (by decide : ¬ [Category.models, .models].Nodup)

end Report

end Plumbline
