import Mathlib.Data.List.Basic
import Plumbline.Phase.Target

namespace Plumbline

namespace Words

variable {largest a b : Nat}

/-- What a word that holds the numbers up to a largest one keeps of a number. -/
def truncated (largest n : Nat) : Nat := n % (largest + 1)

/-- A sum, missing if it does not fit into a word. -/
def sum? (largest a b : Nat) : Option Nat := if a + b ≤ largest then some (a + b) else none

def difference? (a b : Nat) : Option Nat := if b ≤ a then some (a - b) else none

/-- A product, or the largest word if it does not fit. -/
def product (largest a b : Nat) : Nat := min (a * b) largest

/-- The items of a list from one place up to another. Both must be in the list, and in this order. -/
def slice? {α : Type} (items : List α) (start stop : Nat) : Option (List α) :=
  if start ≤ stop ∧ stop ≤ items.length then some ((items.take stop).drop start) else none

theorem truncated_of_le (fits : a ≤ largest) : truncated largest a = a := Nat.mod_eq_of_lt (Nat.lt_succ_of_le fits)

theorem difference?_of_le (below : b ≤ a) : difference? a b = some (a - b) := if_pos below

theorem sum?_of_le (fits : a + b ≤ largest) : sum? largest a b = some (a + b) := if_pos fits

theorem slice?_upTo {α : Type} {items : List α} {start size : Nat} (inside : start ≤ items.length) :
    slice? items start (min (start + size) items.length) = some ((items.drop start).take size) := by
  have ordered : start ≤ min (start + size) items.length ∧ min (start + size) items.length ≤ items.length := by omega
  rw [slice?, if_pos ordered, List.drop_take]
  congr 1
  rw [List.take_eq_take_iff, List.length_drop]
  omega

end Words

namespace Target

/-- How many models a target takes. -/
def shareSize (models : List String) : Nat := max 1 (models.length / slots)

/-- How many targets it takes to share out all models. -/
def shareCount (models : List String) : Nat := (models.length + shareSize models - 1) / shareSize models

/-- The models of a target, counted out in words. There are none as soon as a number does not fit into a word or a place
is not in the list. -/
def shareInWords? (largest : Nat) (models : List String) (number : Nat) : Option (List String) := do
  let size := max 1 (models.length / slots)
  let earlier ← Words.difference? (Words.truncated largest (max number 1)) 1
  let start := Words.product largest earlier size
  if models.length ≤ start then return []
  let stop ← Words.sum? largest start size
  Words.slice? models start (min stop models.length)

variable (models : List String)

theorem shareSize_pos : 0 < shareSize models := by
  unfold shareSize
  omega

theorem shareSize_le (nonempty : 0 < models.length) : shareSize models ≤ models.length := by
  have part : models.length / slots ≤ models.length := Nat.div_le_self ..
  unfold shareSize
  omega

theorem share_eq (number : Nat) :
    share models number = (models.drop ((number - 1) * shareSize models)).take (shareSize models) := rfl

theorem length_le_shareCount_mul : models.length ≤ shareCount models * shareSize models := by
  have whole := Nat.div_add_mod (models.length + shareSize models - 1) (shareSize models)
  have rest := Nat.mod_lt (models.length + shareSize models - 1) (shareSize_pos models)
  rw [shareCount, Nat.mul_comm]
  omega

/-- The first targets together take the first models. -/
theorem flatMap_share (count : Nat) :
    ((List.range count).flatMap fun earlier => share models (earlier + 1)) =
      models.take (count * shareSize models) := by
  induction count with
  | zero => simp
  | succ count ih =>
    rw [List.range_succ, List.flatMap_append, ih, List.flatMap_singleton, share_eq, Nat.add_sub_cancel, Nat.succ_mul,
      List.take_add]

theorem flatMap_share_shareCount :
    ((List.range (shareCount models)).flatMap fun earlier => share models (earlier + 1)) = models := by
  rw [flatMap_share, List.take_of_length_le (length_le_shareCount_mul models)]

/-- What targets deliver when nothing is asked for covers the declared models. -/
theorem flatMap_models_usual (spec : Specification) :
    ((List.range (shareCount spec.modelNames)).flatMap fun earlier => (usual (earlier + 1) spec).models) =
      spec.modelNames := flatMap_share_shareCount spec.modelNames

theorem share_eq_nil {number : Nat} (behind : models.length ≤ (number - 1) * shareSize models) :
    share models number = [] := by
  rw [share_eq, List.drop_eq_nil_of_le behind, List.take_nil]

theorem share_of_shareCount_lt {number : Nat} (further : shareCount models < number) : share models number = [] := by
  have skipped : shareCount models * shareSize models ≤ (number - 1) * shareSize models :=
    Nat.mul_le_mul_right _ (by omega)
  exact share_eq_nil models (Nat.le_trans (length_le_shareCount_mul models) skipped)

/-- No number that comes up leaves the words, if these hold the numbers of all targets and twice the length of the
list. -/
theorem shareInWords?_eq {models : List String} {largest number : Nat} (wide : Json.largest32 ≤ largest)
    (short : 2 * models.length ≤ largest) (fits : number ≤ Json.largest32) :
    shareInWords? largest models number = some (share models number) := by
  have some32 : 1 ≤ Json.largest32 := by decide
  have kept : Words.truncated largest (max number 1) = max number 1 := Words.truncated_of_le (by omega)
  have earlier : Words.difference? (max number 1) 1 = some (number - 1) := by
    rw [Words.difference?_of_le (by omega)]
    congr 1
    omega
  have size : max 1 (models.length / slots) = shareSize models := rfl
  simp only [shareInWords?, kept, earlier, size, Option.bind_eq_bind, Option.bind_some]
  split
  · rename_i behind
    unfold Words.product at behind
    rw [share_eq_nil models (by omega)]
    rfl
  · rename_i inside
    unfold Words.product at inside ⊢
    have exact : min ((number - 1) * shareSize models) largest = (number - 1) * shareSize models := by omega
    have small := shareSize_le models (by omega)
    have within : (number - 1) * shareSize models ≤ models.length := by omega
    rw [exact, Words.sum?_of_le (by omega), Option.bind_some, Words.slice?_upTo within, share_eq]

/-- The targets share out the models in order, so that none is lost or given twice, and later targets have none. Nought
counts as the first target. Wherever words hold all numbers of 32 bits, and lists have no more items than half as many,
the words suffice to find a share. -/
theorem shares_partition :
    ((List.range (shareCount models)).flatMap fun earlier => share models (earlier + 1)) = models ∧
    (∀ number, shareCount models < number → share models number = []) ∧
    share models 0 = share models 1 ∧
    ∀ largest number, Json.largest32 ≤ largest → 2 * models.length ≤ largest → number ≤ Json.largest32 →
      shareInWords? largest models number = some (share models number) :=
  ⟨flatMap_share_shareCount models, fun _ => share_of_shareCount_lt models, rfl,
    fun _ _ wide short fits => shareInWords?_eq wide short fits⟩

/-- Nine models for eight targets, and the last number of a target in words that hold no larger one. -/
theorem shares_of_nine :
    let nine := ["A", "B", "C", "D", "E", "F", "G", "H", "I"]
    shareCount nine = 9 ∧ share nine 9 = ["I"] ∧ share nine 10 = [] ∧ share nine Json.largest32 = [] ∧
      shareInWords? Json.largest32 nine 9 = some ["I"] ∧ shareInWords? Json.largest32 nine Json.largest32 = some [] := by
  intro nine
  obtain ⟨_, beyond, _, inWords⟩ := shares_partition nine
  have short : 2 * nine.length ≤ Json.largest32 := by decide
  have last : share nine 9 = ["I"] := by decide
  have none : share nine Json.largest32 = [] := beyond _ (by decide)
  refine ⟨by decide, last, beyond 10 (by decide), none, ?_, ?_⟩
  · rw [inWords Json.largest32 9 (Nat.le_refl _) short (by decide), last]
  · rw [inWords Json.largest32 Json.largest32 (Nat.le_refl _) short (Nat.le_refl _), none]

end Target

end Plumbline
