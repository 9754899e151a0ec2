import Plumbline.Json.Record
import Plumbline.Proofs.Json.Layout
import Plumbline.Proofs.NameMap

namespace Plumbline.Json

section Legible

variable {room : Nat}

theorem areReadable_iff {items : List Json} : areReadable items = true ↔ ∀ v ∈ items, v.isReadable = true := by
  induction items with
  | nil => simp [areReadable]
  | cons v rest ih => rw [areReadable, Bool.and_eq_true, ih, List.forall_mem_cons]

theorem haveReadable_iff {members : List (String × Json)} :
    haveReadable members = true ↔ ∀ member ∈ members, member.2.isReadable = true := by
  induction members with
  | nil => simp [haveReadable]
  | cons member rest ih => rw [haveReadable, Bool.and_eq_true, ih, List.forall_mem_cons]

theorem Legible.isReadable {v : Json} (legible : Legible room v) : v.isReadable = true := by
  induction legible with
  | null => rfl
  | bool => rfl
  | number => rfl
  | string => rfl
  | array _ ih => exact areReadable_iff.mpr ih
  | object _ ih => exact haveReadable_iff.mpr ih

@[simp] theorem legible_string (s : String) : Legible room (.string s) := .string s

@[simp] theorem legible_bool (b : Bool) : Legible room (.bool b) := .bool b

@[simp] theorem legible_array {items : List Json} :
    Legible (room + 1) (.array items) ↔ ∀ v ∈ items, Legible room v :=
  ⟨fun legible => by cases legible; assumption, .array⟩

@[simp] theorem legible_object {members : List (String × Json)} :
    Legible (room + 1) (.object members) ↔ ∀ member ∈ members, Legible room member.2 :=
  ⟨fun legible => by cases legible; assumption, .object⟩

@[simp] theorem legible_strings (items : List String) : Legible (room + 1) (.strings items) := by simp [strings]

theorem legible_table {α : Type} {write : α → Json} (each : ∀ a, Legible room (write a)) (m : NameMap α) :
    Legible (room + 1) (table write m) := by
  rw [table, legible_object]
  intro member among
  obtain ⟨entry, _, rfl⟩ := List.mem_map.mp among
  exact each entry.2

theorem legible_nat {n : Nat} (fits : n ≤ maxNatural) : Legible room (.nat n) :=
  .number (Number.readsBack_natural fits)

theorem legible_float {x : Float} (reads : parse (Json.float x).pretty = some (.float x)) :
    Legible room (.float x) := by
  have text : (Json.float x).pretty = (Number.double x).text := String.ofList_toList
  rw [text] at reads
  exact .number reads

end Legible

section Slots

variable {members : List (String × Json)}

/-- The slot of a field in a record with these members. -/
def slotOf (members : List (String × Json)) (key : String) : Slot :=
  match members.lookup key with
  | some v => .present v
  | none => .absent

@[simp] theorem slotOf_nil (key : String) : slotOf [] key = .absent := rfl

@[simp] theorem slotOf_cons_self (key : String) (v : Json) : slotOf ((key, v) :: members) key = .present v := by
  rw [slotOf, List.lookup_cons_self]

@[simp] theorem slotOf_cons_of_ne {name key : String} (other : key ≠ name) (v : Json) :
    slotOf ((name, v) :: members) key = slotOf members key := by
  rw [slotOf, List.lookup_cons, beq_false_of_ne other]
  rfl

theorem filter_key_eq (distinct : (members.map Prod.fst).Nodup) (key : String) :
    members.filter (·.1 == key) = ((members.lookup key).map (key, ·)).toList := by
  induction members with
  | nil => rfl
  | cons member rest ih =>
    obtain ⟨name, v⟩ := member
    obtain ⟨fresh, others⟩ := List.nodup_cons.mp distinct
    by_cases same : name = key
    · subst same
      have noMore : rest.filter (·.1 == name) = [] := by
        refine List.filter_eq_nil_iff.mpr fun other among equal => fresh ?_
        have named : other.1 ∈ rest.map Prod.fst := List.mem_map_of_mem among
        rwa [eq_of_beq equal] at named
      rw [List.filter_cons_of_pos (by simp), noMore, List.lookup_cons_self]
      rfl
    · rw [List.filter_cons_of_neg (by simpa using same), ih others, List.lookup_cons, beq_false_of_ne (Ne.symm same)]

/-- An object that gives no key twice holds a field where it gives the key. -/
theorem recordIn?_object (distinct : (members.map Prod.fst).Nodup) (manner : Manner) (keys : List String) :
    (Json.object members).recordIn? manner keys = some (keys.map (slotOf members)) := by
  unfold recordIn?
  refine (congrArg (fun read => keys.mapM read) (funext fun key => ?_)).trans List.mapM_pure
  rw [filter_key_eq distinct key, slotOf]
  cases members.lookup key <;> rfl

theorem record?_object (distinct : (members.map Prod.fst).Nodup) (keys : List String) :
    (Json.object members).record? keys = some (keys.map (slotOf members)) := recordIn?_object distinct .plain keys

/-- An object that gives just the keys of a record, in their order, holds in its fields what it gives them. -/
theorem record?_of_keys {keys : List String} (distinct : keys.Nodup) (same : members.map Prod.fst = keys) :
    (Json.object members).record? keys = some (members.map fun member => .present member.2) := by
  subst same
  rw [record?_object distinct, List.map_map]
  refine congrArg some (List.map_congr_left fun member among => ?_)
  rw [Function.comp_apply, slotOf, NameMap.lookup_of_mem_of_nodup distinct among]

theorem tagged?_object {key kind : String} (fresh : key ∉ members.map Prod.fst)
    (readable : ∀ member ∈ members, member.2.isReadable = true) :
    (Json.object ((key, .string kind) :: members)).tagged? key = some (kind, .object members) := by
  have other : ∀ member ∈ members, (member.1 == key) = false := fun member among =>
    beq_false_of_ne fun same => fresh (same ▸ List.mem_map_of_mem among)
  have one : ((key, Json.string kind) :: members).filter (·.1 == key) = [(key, .string kind)] := by
    rw [List.filter_cons_of_pos (by simp), List.filter_eq_nil_iff.mpr fun member among => by simp [other member among]]
  have rest : ((key, Json.string kind) :: members).filter (·.1 != key) = members := by
    rw [List.filter_cons_of_neg (by simp)]
    exact List.filter_eq_self.mpr fun member among => by simp [bne, other member among]
  have whole : haveReadable ((key, .string kind) :: members) = true :=
    haveReadable_iff.mpr (List.forall_mem_cons.mpr ⟨rfl, readable⟩)
  rw [tagged?, whole, one, rest]
  rfl

end Slots

/-- A value that is read back from its text and then stands for `a`. -/
structure Restores {α : Type} (room : Nat) (read : Json → Option α) (v : Json) (a : α) : Prop where
  legible : Legible room v
  read : read v = some a

section Parts

variable {α β : Type} {room : Nat}

theorem Restores.map {read : Json → Option α} {v : Json} {a : α} (restores : Restores room read v a) (f : α → β) :
    Restores room (fun v => (read v).map f) v (f a) where
  legible := restores.legible
  read := by rw [restores.read, Option.map_some]

@[simp] theorem text?_string (s : String) : text? (.string s) = some s := rfl

@[simp] theorem flag?_bool (b : Bool) : flag? (.bool b) = some b := rfl

@[simp] theorem double?_float (x : Float) : double? (.float x) = some x := rfl

theorem natural?_nat {n largest : Nat} (fits : n ≤ largest) : natural? largest (.nat n) = some n := if_pos fits

theorem list?_map {read : Json → Option β} {write : α → Json} {f : α → β} {items : List α}
    (each : ∀ a ∈ items, read (write a) = some (f a)) : list? read (.array (items.map write)) = some (items.map f) := by
  induction items with
  | nil => rfl
  | cons a items ih =>
    obtain ⟨first, others⟩ := List.forall_mem_cons.mp each
    have tail : (items.map write).mapM read = some (items.map f) := ih others
    rw [list?, List.map_cons, List.mapM_cons, first, tail]
    rfl

theorem list?_map_self {read : Json → Option α} {write : α → Json} {items : List α}
    (each : ∀ a ∈ items, read (write a) = some a) : list? read (.array (items.map write)) = some items := by
  rw [list?_map each, List.map_id']

@[simp] theorem list?_strings (items : List String) : list? text? (.strings items) = some items :=
  list?_map_self fun _ _ => rfl

theorem table?_table {read : Json → Option α} {write : α → Json} (each : ∀ a, read (write a) = some a)
    (m : NameMap α) : table? read (table write m) = some m := by
  have whole : m.entries.mapM (fun entry => some (entry.1, entry.2)) = some m.entries :=
    (List.mapM_pure (m := Option)).trans (congrArg some (List.map_id _))
  rw [table, table?, List.mapM_map]
  simp only [Function.comp_def, each, Option.map_some]
  rw [whole, Option.map_some, NameMap.ofList_entries]

@[simp] theorem required_present (read : Json → Option α) (v : Json) : (Slot.present v).required read = read v := rfl

@[simp] theorem withDefault_present (read : Json → Option α) (default : α) (v : Json) :
    (Slot.present v).withDefault read default = read v := rfl

/-- A record is read field by field. -/
theorem bind_present {read : Json → Option α} {v : Json} {a : α} (default : α) (found : read v = some a)
    {rest : α → Option β} {b : β} (others : rest a = some b) :
    ((Slot.present v).withDefault read default >>= rest) = some b := by
  rw [withDefault_present, found, Option.bind_eq_bind, Option.bind_some, others]

@[simp] theorem withDefault_absent (read : Json → Option α) (default : α) :
    Slot.absent.withDefault read default = some default := rfl

end Parts

end Plumbline.Json
