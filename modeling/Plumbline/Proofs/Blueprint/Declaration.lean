import Plumbline.Proofs.Blueprint.Names

namespace Plumbline

theorem Text.lowerAfter_append {s : List Char} (before rest : List Char) (ascii : ∀ c ∈ s, c.toNat < 128) :
    lowerAfter before (s ++ rest) = s.map Char.toLower ++ lowerAfter (s.reverse ++ before) rest := by
  induction s generalizing before with
  | nil => rfl
  | cons c s ih =>
    obtain ⟨here, ascii⟩ := List.forall_mem_cons.mp ascii
    have common : c ≠ '\u03a3' := by
      rintro rfl
      exact absurd here (by decide)
    rw [List.cons_append, lowerAfter, if_neg common, lowerChar, if_pos here, ih (c :: before) ascii, List.reverse_cons,
      List.append_assoc, List.map_cons]
    rfl

namespace Technology

open Text

theorem hasWord_of_after? {word s rest : List Char} (here : after? word s = some rest) (nonempty : s ≠ [])
    (ends : rest.head?.any isAlphanumeric = false) : hasWord word none s = true := by
  obtain ⟨c, s, rfl⟩ := List.exists_cons_of_ne_nil nonempty
  simp [hasWord, here, ends]

end Technology

namespace Applications

open Text

/-- A word between single quotes. -/
def quote (word : List Char) : List Char := '\x27' :: word ++ ['\x27']

/-- A text that declares an application of a project with Django. -/
def declaring (word : List Char) : String :=
  String.ofList ("Django ".toList ++ ("backend_apps".toList ++ ("=[".toList ++ (quote word ++ [']']))))

theorem toList_declaring (word : List Char) : (declaring word).toList =
    "Django ".toList ++ ("backend_apps".toList ++ ("=[".toList ++ (quote word ++ [']']))) :=
  String.toList_ofList

theorem cut?_declaring (word : List Char) : cut? "backend_apps".toList (declaring word).toList =
    some ("Django ".toList, "=[".toList ++ (quote word ++ [']'])) := by
  have lead : "backend_apps".toList = 'b' :: "ackend_apps".toList := by decide
  have fresh : 'b' ∉ "Django ".toList := by decide
  rw [toList_declaring, lead]
  exact cut?_of_head_not_mem _ fresh

variable {word : List Char}

theorem firstBrackets?_quote (letters : ∀ c ∈ word, isWord c = true) :
    firstBrackets? ("=[".toList ++ (quote word ++ [']'])) = some (quote word) := by
  have opening : "=[".toList = ['=', '['] := by decide
  have within : ∀ c ∈ quote word, (c != ']') = true := by
    simp only [quote, List.cons_append, List.mem_cons, List.mem_append, List.not_mem_nil, or_false]
    rintro c (rfl | inside | rfl)
    · rfl
    · refine bne_iff_ne.mpr fun bracket => ?_
      rw [bracket] at inside
      exact absurd (letters _ inside) (by decide)
    · rfl
  have inside : (quote word ++ [']']).takeWhile (· != ']') = quote word := by
    rw [List.takeWhile_append_of_pos within]
    exact List.append_nil _
  have nonempty : quote word ≠ [] := List.cons_ne_nil _ _
  simp [opening, firstBrackets?, inside, nonempty]

theorem findAll_quote (nonempty : word ≠ []) (letters : ∀ c ∈ word, isWord c = true) :
    findAll (readMarked isQuote) none (quote word) = [String.ofList word] := by
  have mark : isQuote '\x27' = true := by decide
  have stops : isWord '\x27' = false := by decide
  have taken : some? isWord (word ++ ['\x27']) = some (word, ['\x27']) :=
    some?_append nonempty letters fun _ here => Option.some.inj here ▸ stops
  have reads : readMarked isQuote none (quote word) = some (String.ofList word, []) := by
    simp [readMarked, quote, mark, taken]
  rw [quote, List.cons_append] at reads ⊢
  rw [findAll, reads]
  simp [findAll]

/-- Any word may be declared as an application. -/
theorem declared?_declaring (nonempty : word ≠ []) (letters : ∀ c ∈ word, isWord c = true) :
    declared? (declaring word).toList = some [String.ofList word] := by
  rw [declared?, cut?_declaring]
  simp only [Option.bind_eq_bind, Option.bind_some, firstBrackets?_quote letters, findAll_quote nonempty letters]
  rfl

end Applications

namespace Blueprint

open Applications (declaring)

/-- Any word may be the name of an application. -/
theorem apps_declaring {word : List Char} (nonempty : word ≠ []) (letters : ∀ c ∈ word, Text.isWord c = true) :
    (extract (declaring word)).spec.apps = [String.ofList word] := by
  rw [apps_extract, Applications.find, Applications.declared?_declaring nonempty letters]

theorem isDjango_declaring (word : List Char) : (extract (declaring word)).spec.isDjango = true := by
  have lowered : Text.lower (declaring word).toList = "django".toList ++ ' ' ::
      Text.lowerAfter "Django ".toList.reverse
        ("backend_apps".toList ++ ("=[".toList ++ (Applications.quote word ++ [']']))) := by
    have ascii : ∀ c ∈ "Django ".toList, c.toNat < 128 := by simp
    have small : "Django ".toList.map Char.toLower = "django".toList ++ [' '] := by decide
    rw [Applications.toList_declaring, Text.lower, Text.lowerAfter_append [] _ ascii, small, List.append_nil,
      List.append_assoc, List.singleton_append]
  have here : Technology.hasWord "django".toList none (Text.lower (declaring word).toList) = true := by
    rw [lowered]
    have ends : Text.isAlphanumeric ' ' = false := by decide
    exact Technology.hasWord_of_after? (Text.after?_append _ _) (by simp) (by simp [ends])
  have framework : (extract (declaring word)).spec.backendFramework = "django" := by
    simp only [extract, Technology.firstWord, Technology.frameworks, List.find?_cons, here, Option.getD_some]
  rw [Specification.isDjango, framework]
  rfl

end Blueprint

end Plumbline
