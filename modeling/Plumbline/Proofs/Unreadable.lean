import Plumbline.Check
import Plumbline.Proofs.Check.Versions
import Plumbline.Proofs.Site

namespace Plumbline

open Check

namespace CheckSpec

/-- Whether a check reads texts. The others go by paths alone. -/
def readsTexts : CheckSpec → Bool
  | requiredPaths _ | filePatterns _ | appStructure _ | testLayout _ => false
  | _ => true

/-- Where it shows in what a check reports that a file at a place cannot be read and is not just missing. That is where
the file is told from a missing one by its path before its text is asked for. -/
def Notices : CheckSpec → Site → List String → Prop
  | ciPipeline _, site, place => CiPipeline.Notices site place
  | fileContent check, site, place => check.Notices site place
  | moduleDocstrings check, site, place => check.Notices site place
  | readmeSections check, site, place => check.Notices site place
  | migrations check, site, place => check.Notices site place
  | moduleCoupling check, site, place => check.Notices site place
  | breakingChanges check, site, place => check.Notices site place
  | documentationFreshness check, site, place => check.Notices site place
  | versionFormat check, site, place => check.Notices site place
  | _, _, _ => False

/-- To a check that reads texts, a file that cannot be read is as good as missing, except where it is noticed. -/
theorem run_without_unreadable_iff (check : CheckSpec) {site : Site} {place : List String} (formed : site.WellFormed)
    (unread : site.files.top.find? place = some (.file none)) (reads : check.readsTexts = true) :
    check.run (site.without place) = check.run site ↔ ¬ check.Notices site place := by
  have same {report report' : Except CheckError (List Issue)} (unnoticed : report = report') :
      report = report' ↔ ¬ False := iff_of_true unnoticed not_false
  cases check with
  | requiredPaths check => cases reads
  | filePatterns check => cases reads
  | appStructure check => cases reads
  | testLayout check => cases reads
  | ciPipeline check => exact check.run_without_iff formed unread
  | fileContent check => exact check.run_without_iff formed unread
  | moduleDocstrings check => exact check.run_without_iff formed unread
  | readmeSections check => exact check.run_without_iff formed unread
  | migrations check => exact check.run_without_iff formed unread
  | moduleCoupling check => exact check.run_without_iff formed unread
  | breakingChanges check => exact check.run_without_iff formed unread
  | documentationFreshness check => exact check.run_without_iff formed unread
  | versionFormat check => exact check.run_without_iff formed unread
  | textPresent check => exact same (check.run_without formed unread)
  | modelClasses check => exact same (check.run_without formed unread)
  | modelFields check => exact same (check.run_without formed unread)
  | modelRelationships check => exact same (check.run_without formed unread)
  | tenantBaseModel check => exact same (check.run_without formed unread)
  | declaredDependencies check => exact same (check.run_without formed unread)
  | definitionsPresent check => exact same (check.run_without formed unread)
  | testCoverage check => exact same (check.run_without formed unread)
  | integrationTests check => exact same (check.run_without formed unread)
  | deprecationMarkers check => exact same (check.run_without formed unread)
  | refactoredComponents check => exact same (check.run_without formed unread)

end CheckSpec

/-- A site with one file, which cannot be read. -/
def binarySite : Site := ⟨⟨.directory [("README.md", .file none)], []⟩, "."⟩

theorem wellFormed_binarySite : binarySite.WellFormed := by
  refine .directory (List.pairwise_singleton ..) ?_ ?_ <;> rw [List.forall_mem_singleton]
  · decide
  · exact .file none

theorem unread_binarySite : binarySite.files.top.find? ["README.md"] = some (.file none) := rfl

theorem leads_binarySite : binarySite.Leads ["README.md"] "README.md" [] := by
  have walked : binarySite.walkFiles = .ok [⟨["README.md"], none⟩] := by
    rw [Site.walkFiles, Site.walk_dot rfl rfl]
    rfl
  have parsed : PathPattern.parseAll ["README.md"] = .ok [⟨["README.md".toList.map .literal]⟩] := by
    have alone : PathPattern.components "README.md" = ["README.md"] := by decide +kernel
    have glob : Glob.parse "README.md".toList = .ok ("README.md".toList.map .literal) :=
      Glob.parse_of_plain (by decide +kernel)
    exact mapM_eq_ok_of_forall₂ (.cons (PathPattern.parse_eq_ok alone (.cons ⟨glob, by decide +kernel⟩ .nil)) .nil)
  have matched : PathPattern.isMatch ⟨["README.md".toList.map .literal]⟩ ["README.md"] = true := by decide +kernel
  refine ⟨⟨["README.md"], none⟩, ?_, by decide⟩
  rw [Site.filesMatching, parsed, walked]
  exact congrArg Except.ok (List.filter_cons_of_pos (by rw [List.any_cons, matched]; rfl))

/-- A file that cannot be read is asked for what it must hold, where a missing one is reported as missing. -/
theorem unreadable_file_not_taken_for_missing :
    ¬ ∀ (check : CheckSpec) (site : Site) (place : List String), site.WellFormed →
      site.files.top.find? place = some (.file none) → check.readsTexts = true →
      check.run (site.without place) = check.run site := by
  intro always
  let check : FileContent := ⟨"README.md", .high, [⟨"license", ["MIT"], .low⟩]⟩
  have same : check.run (binarySite.without ["README.md"]) = check.run binarySite :=
    always (.fileContent check) binarySite ["README.md"] wellFormed_binarySite unread_binarySite rfl
  exact (check.run_without_iff wellFormed_binarySite unread_binarySite).mp same ⟨[], leads_binarySite, .inl rfl⟩

/-- A readme that cannot be read lacks a title where a missing one would lack nothing, but is as good as missing to who
looks for a text in it. -/
theorem CheckSpec.run_without_binaryReadme :
    (readmeSections ⟨"README.md", [], [], 0, 0⟩).run (binarySite.without ["README.md"]) ≠
        (readmeSections ⟨"README.md", [], [], 0, 0⟩).run binarySite ∧
      (textPresent ⟨["README.md"], "missing_text", [⟨"license", ["MIT"], .low⟩]⟩).run
          (binarySite.without ["README.md"]) =
        (textPresent ⟨["README.md"], "missing_text", [⟨"license", ["MIT"], .low⟩]⟩).run binarySite := by
  constructor
  · intro same
    exact (run_without_unreadable_iff (readmeSections _) wellFormed_binarySite unread_binarySite rfl).mp same
      ⟨[], leads_binarySite⟩
  · exact (run_without_unreadable_iff (textPresent _) wellFormed_binarySite unread_binarySite rfl).mpr not_false

end Plumbline
