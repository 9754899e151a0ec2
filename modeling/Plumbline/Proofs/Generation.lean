import Plumbline.Generation
import Plumbline.Proofs.Phase.Target

namespace Plumbline

namespace Phase

/-- Every skeleton keeps out of a repository what does not belong there, every integration is tested, and every change
is documented. -/
theorem rules_ne_nil (phase : Phase) (year : Int32) (spec : Specification) : phase.rules year spec ≠ [] := by
  cases phase with
  | scaffold => simp [rules, Scaffold.rules]
  | target number asked => exact Target.rules_ne_nil number asked spec
  | integration name wiring => simp [rules, Integration.rules]
  | evolution change => simp [rules, Evolution.rules]

end Phase

section Errors

variable {ε ε' α β : Type}

theorem exists_of_mapError_eq_error {result : Except ε α} {f : ε → ε'} {e : ε'}
    (failed : result.mapError f = .error e) : ∃ cause, f cause = e := by
  cases result with
  | error cause => exact ⟨cause, Except.error.inj failed⟩
  | ok _ => cases failed

theorem of_bind_eq_error {result : Except ε α} {f : α → Except ε β} {e : ε} (failed : result >>= f = .error e) :
    result = .error e ∨ ∃ a, result = .ok a ∧ f a = .error e := by
  cases result with
  | error _ => exact .inl (congrArg Except.error (Except.error.inj failed))
  | ok a => exact .inr ⟨a, rfl, failed⟩

end Errors

/-- Writing a file fails over a directory above it or over the file. -/
theorem FileSystem.of_writeText_eq_error {files : FileSystem} {path text : String} {e : GenerationError}
    (failed : files.writeText path text = .error e) :
    (∃ above cause, GenerationError.directory above cause = e) ∨ ∃ cause, GenerationError.file path cause = e := by
  rw [writeText] at failed
  split at failed
  · exact .inr (exists_of_mapError_eq_error failed)
  · rcases of_bind_eq_error failed with made | ⟨_, _, written⟩
    · exact .inl ⟨_, exists_of_mapError_eq_error made⟩
    · exact .inr (exists_of_mapError_eq_error written)

namespace Generation

theorem make_eq (spec : Specification) (phase : Phase) (directory : String) (name : Option String) (moment : Moment) :
    ∃ generation, make spec phase directory name moment = .ok generation ∧ generation.compilation.manifest.rules =
      (Compilation.sift [] (phase.rules moment.year.toInt32 spec)).1 := by
  have some : (phase.rules moment.year.toInt32 spec).isEmpty = false :=
    List.isEmpty_eq_false_iff.mpr (phase.rules_ne_nil _ spec)
  refine ⟨_, if_neg (Bool.eq_false_iff.mp some), rfl⟩

/-- No phase is without rules, so that there is a validator of it for every project, and its manifest holds a rule. That
there are none is never the reason why a validator is not written. -/
theorem make_holds_rules (phase : Phase) (spec : Specification) :
    (∀ year, phase.rules year spec ≠ [] ∧
      ∀ header, (Compilation.ofRules (α := Float) header (phase.rules year spec)).manifest.rules ≠ []) ∧
    ∀ directory name moment,
      (∃ generation, make spec phase directory name moment = .ok generation ∧
        generation.compilation.manifest.rules ≠ []) ∧
      ∀ files label,
        (make spec phase directory name moment >>= fun generation => generation.write files) ≠
          .error (.noRules label) := by
  have kept (year : Int32) : (Compilation.sift [] (phase.rules year spec)).1 ≠ [] :=
    mt Compilation.sift_nil_eq_nil_iff.mp (phase.rules_ne_nil year spec)
  refine ⟨fun year => ⟨phase.rules_ne_nil year spec, fun header => kept year⟩, fun directory name moment => ?_⟩
  obtain ⟨generation, made, manifest⟩ := make_eq spec phase directory name moment
  refine ⟨⟨generation, made, manifest ▸ kept _⟩, fun files label failed => ?_⟩
  rw [made] at failed
  rcases FileSystem.of_writeText_eq_error failed with ⟨_, _, other⟩ | ⟨_, other⟩
  · cases other
  · cases other

end Generation

end Plumbline
