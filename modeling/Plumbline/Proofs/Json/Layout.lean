import Plumbline.Proofs.Json.Number
import Plumbline.Proofs.Json.Text
import Mathlib.Data.List.DropRight

namespace Plumbline.Json

section Space

theorem skipSpace_newLine (level : Nat) (s : List Char) : skipSpace (newLine level ++ s) = skipSpace s := by
  have blank : ∀ c ∈ newLine level, isSpace c = true := by
    intro c member
    rcases List.mem_cons.mp member with rfl | blank
    · rfl
    · rw [List.eq_of_mem_replicate blank]
      rfl
  exact List.dropWhile_append_of_pos blank

theorem skipSpace_skipSpace (s : List Char) : skipSpace (skipSpace s) = skipSpace s :=
  List.dropWhile_idempotent isSpace s

theorem readValue_skipSpace (fuel depth : Nat) (s : List Char) :
    readValue fuel depth (skipSpace s) = readValue fuel depth s := by
  cases fuel with
  | zero => rfl
  | succ fuel => rw [readValue, readValue, skipSpace_skipSpace]

theorem readValue_blank (fuel depth : Nat) (s : List Char) :
    readValue fuel depth (' ' :: s) = readValue fuel depth s := by
  rw [← readValue_skipSpace, ← readValue_skipSpace fuel depth s]
  rfl

theorem readItems_skipSpace (fuel depth : Nat) (s : List Char) :
    readItems fuel depth (skipSpace s) = readItems fuel depth s := by
  cases fuel with
  | zero => rfl
  | succ fuel => rw [readItems, readItems, readValue_skipSpace]

theorem readMembers_skipSpace (fuel depth : Nat) (s : List Char) :
    readMembers fuel depth (skipSpace s) = readMembers fuel depth s := by
  cases fuel with
  | zero => rfl
  | succ fuel => rw [readMembers, readMembers, skipSpace_skipSpace]

theorem ends_newLine (level : Nat) (s : List Char) : Ends (newLine level ++ s) := by
  rintro c ⟨⟩
  rfl

theorem ends_comma (s : List Char) : Ends (',' :: s) := by
  rintro c ⟨⟩
  rfl

end Space

/-- Under so many containers the text of a value is read as `w`, whatever follows, if numbers end there. -/
def ReadsAs (depth : Nat) (v w : Json) : Prop :=
  ∀ (level fuel : Nat) (rest : List Char), (layOut level v).length < fuel → Ends rest →
    readValue fuel depth (layOut level v ++ rest) = some (w, rest)

/-- What is left of a value where so many containers may nest: those further in have no meaning. -/
def clip : Nat → Json → Json
  | 0, .array _ => .unreadable
  | 0, .object _ => .unreadable
  | room + 1, .array items => .array (items.map (clip room))
  | room + 1, .object members => .object (members.map fun member => (member.1, clip room member.2))
  | _, v => v

section Scalars

variable (room : Nat)

@[simp] theorem clip_null : Json.null.clip room = .null := by cases room <;> rfl

@[simp] theorem clip_bool (b : Bool) : (Json.bool b).clip room = .bool b := by cases room <;> rfl

@[simp] theorem clip_number (n : Number) : (Json.number n).clip room = .number n := by cases room <;> rfl

@[simp] theorem clip_string (s : String) : (Json.string s).clip room = .string s := by cases room <;> rfl

end Scalars

section Containers

variable {depth level fuel : Nat} {sees : Json → Json}

theorem readItems_last {v : Json} {s rest next : List Char} (found : readValue fuel depth s = some (v, rest))
    (closed : skipSpace rest = ']' :: next) : readItems (fuel + 1) depth s = some ([v], next) := by
  rw [readItems, found, Option.bind_eq_bind, Option.bind_some]
  dsimp only
  rw [closed]
  rfl

theorem readItems_more {v : Json} {items : List Json} {s rest next behind : List Char}
    (found : readValue fuel depth s = some (v, rest)) (comma : skipSpace rest = ',' :: next)
    (others : readItems fuel depth next = some (items, behind)) :
    readItems (fuel + 1) depth s = some (v :: items, behind) := by
  rw [readItems, found, Option.bind_eq_bind, Option.bind_some]
  dsimp only
  rw [comma]
  exact congrArg (Option.map _) others

/-- The items of an array are read one by one. Each spends one unit of fuel and has a text at least that long. -/
theorem readItems_layOut {v : Json} {items : List Json} (first : ReadsAs depth v (sees v))
    (others : ∀ w ∈ items, ReadsAs depth w (sees w))
    (enough : (layOut (level + 1) v ++ layOutItems level items).length + 1 < fuel) (rest : List Char) :
    readItems fuel depth (layOut (level + 1) v ++ (layOutItems level items ++ (newLine level ++ ']' :: rest))) =
      some ((v :: items).map sees, rest) := by
  induction items generalizing v fuel with
  | nil =>
    obtain ⟨fuel, rfl⟩ : ∃ left, fuel = left + 1 := ⟨fuel - 1, by omega⟩
    rw [List.length_append] at enough
    exact readItems_last (first _ _ _ (by omega) (ends_newLine level _)) (skipSpace_newLine level _)
  | cons w items ih =>
    obtain ⟨fuel, rfl⟩ : ∃ left, fuel = left + 1 := ⟨fuel - 1, by omega⟩
    obtain ⟨second, further⟩ := List.forall_mem_cons.mp others
    simp only [layOutItems, List.length_append, List.length_cons] at enough
    have shorter : (layOut (level + 1) w ++ layOutItems level items).length + 1 < fuel := by
      rw [List.length_append]
      omega
    have tail := ih second further shorter
    rw [← readItems_skipSpace, ← skipSpace_newLine (level + 1), readItems_skipSpace] at tail
    simp only [layOutItems, List.cons_append, List.append_assoc]
    exact readItems_more (first _ _ _ (by omega) (ends_comma _)) rfl tail

theorem readMembers_last {key : String} {v : Json} {s quoted colon value rest next : List Char}
    (quote : skipSpace s = '\x22' :: quoted)
    (text : readString (quoted.length + 1) [] true quoted = some (some key, colon))
    (mark : skipSpace colon = ':' :: value) (found : readValue fuel depth value = some (v, rest))
    (closed : skipSpace rest = '\x7d' :: next) : readMembers (fuel + 1) depth s = some (some [(key, v)], next) := by
  rw [readMembers, quote]
  simp only [text, mark, found, closed, Option.bind_eq_bind, Option.bind_some, Option.map_some, Option.pure_def]

theorem readMembers_more {key : String} {v : Json} {members : List (String × Json)}
    {s quoted colon value rest next behind : List Char} (quote : skipSpace s = '\x22' :: quoted)
    (text : readString (quoted.length + 1) [] true quoted = some (some key, colon))
    (mark : skipSpace colon = ':' :: value) (found : readValue fuel depth value = some (v, rest))
    (comma : skipSpace rest = ',' :: next) (others : readMembers fuel depth next = some (some members, behind)) :
    readMembers (fuel + 1) depth s = some (some ((key, v) :: members), behind) := by
  rw [readMembers, quote]
  simp only [text, mark, found, comma, others, Option.bind_eq_bind, Option.bind_some, Option.map_some]

theorem readMembers_layOut (key : String) {v : Json} {members : List (String × Json)}
    (first : ReadsAs depth v (sees v)) (others : ∀ member ∈ members, ReadsAs depth member.2 (sees member.2))
    (enough : (layOut (level + 1) v ++ layOutMembers level members).length + 1 < fuel) (rest : List Char) :
    readMembers fuel depth (stringText key ++ (':' :: ' ' :: (layOut (level + 1) v ++ (layOutMembers level members ++
      (newLine level ++ '\x7d' :: rest))))) =
      some (some (((key, v) :: members).map fun member => (member.1, sees member.2)), rest) := by
  induction members generalizing key v fuel with
  | nil =>
    obtain ⟨fuel, rfl⟩ : ∃ left, fuel = left + 1 := ⟨fuel - 1, by omega⟩
    rw [List.length_append] at enough
    rw [stringText_append]
    exact readMembers_last rfl (readString_stringText key _) rfl
      ((readValue_blank _ _ _).trans (first _ _ _ (by omega) (ends_newLine level _))) (skipSpace_newLine level _)
  | cons member members ih =>
    obtain ⟨fuel, rfl⟩ : ∃ left, fuel = left + 1 := ⟨fuel - 1, by omega⟩
    obtain ⟨second, further⟩ := List.forall_mem_cons.mp others
    simp only [layOutMembers, List.length_append, List.length_cons] at enough
    have shorter : (layOut (level + 1) member.2 ++ layOutMembers level members).length + 1 < fuel := by
      rw [List.length_append]
      omega
    have tail := ih member.1 second further shorter
    rw [← readMembers_skipSpace, ← skipSpace_newLine (level + 1), readMembers_skipSpace] at tail
    simp only [layOutMembers, List.cons_append, List.append_assoc, List.nil_append]
    rw [stringText_append]
    exact readMembers_more rfl (readString_stringText key _) rfl
      ((readValue_blank _ _ _).trans (first _ _ _ (by omega) (ends_comma _))) rfl tail

theorem readItems_bracket (fuel depth : Nat) (s : List Char) : readItems fuel depth (']' :: s) = none := by
  rcases fuel with - | - | fuel <;> rfl

theorem readMembers_brace (fuel depth : Nat) (s : List Char) : readMembers fuel depth ('\x7d' :: s) = none := by
  cases fuel <;> rfl

theorem readValue_stringText (s : String) (rest : List Char) :
    readValue (fuel + 1) depth (stringText s ++ rest) = some (.string s, rest) := by
  rw [stringText_append]
  exact congrArg (Option.map _) (readString_stringText s rest)

theorem readValue_bracket (fuel depth : Nat) (s : List Char) :
    readValue (fuel + 1) depth ('[' :: s) = match skipSpace s with
      | ']' :: s => some (if depth < maxDepth then .array [] else .unreadable, s)
      | s => (readItems fuel (depth + 1) s).map fun (items, rest) =>
        (if depth < maxDepth then .array items else .unreadable, rest) := rfl

theorem readValue_brace (fuel depth : Nat) (s : List Char) :
    readValue (fuel + 1) depth ('\x7b' :: s) = match skipSpace s with
      | '\x7d' :: s => some (if depth < maxDepth then .object [] else .unreadable, s)
      | s => (readMembers fuel (depth + 1) s).map fun (members, rest) =>
        (match members with
          | some found => if depth < maxDepth then .object found else .unreadable
          | none => .unreadable, rest) := rfl

theorem readValue_array {items : List Json} {s rest : List Char}
    (found : readItems fuel (depth + 1) s = some (items, rest)) :
    readValue (fuel + 1) depth ('[' :: s) = some (if depth < maxDepth then .array items else .unreadable, rest) := by
  rw [← readItems_skipSpace] at found
  rw [readValue_bracket]
  split
  · rename_i closed
    rw [closed, readItems_bracket] at found
    contradiction
  · rw [found, Option.map_some]

theorem readValue_object {members : List (String × Json)} {s rest : List Char}
    (found : readMembers fuel (depth + 1) s = some (some members, rest)) :
    readValue (fuel + 1) depth ('\x7b' :: s) = some (if depth < maxDepth then .object members else .unreadable, rest) := by
  rw [← readMembers_skipSpace] at found
  rw [readValue_brace]
  split
  · rename_i closed
    rw [closed, readMembers_brace] at found
    contradiction
  · rw [found, Option.map_some]

theorem room_cases (depth : Nat) :
    depth < maxDepth ∧ maxDepth - depth = maxDepth - (depth + 1) + 1 ∨ ¬ depth < maxDepth ∧ maxDepth - depth = 0 := by
  omega

theorem clip_array (items : List Json) :
    (Json.array items).clip (maxDepth - depth) =
      if depth < maxDepth then .array (items.map (clip (maxDepth - (depth + 1)))) else .unreadable := by
  rcases room_cases depth with ⟨inside, room⟩ | ⟨deep, room⟩
  · rw [if_pos inside, room, clip]
  · rw [if_neg deep, room, clip]

theorem clip_object (members : List (String × Json)) :
    (Json.object members).clip (maxDepth - depth) =
      if depth < maxDepth then .object (members.map fun member => (member.1, clip (maxDepth - (depth + 1)) member.2))
      else .unreadable := by
  rcases room_cases depth with ⟨inside, room⟩ | ⟨deep, room⟩
  · rw [if_pos inside, room, clip]
  · rw [if_neg deep, room, clip]

end Containers

/-- A value whose every part has a meaning, whose numbers are read back from their texts, and whose containers nest at
most `room` deep. -/
inductive Legible : Nat → Json → Prop where
  | null {room : Nat} : Legible room .null
  | bool {room : Nat} (b : Bool) : Legible room (.bool b)
  | number {room : Nat} {n : Number} (reads : n.ReadsBack) : Legible room (.number n)
  | string {room : Nat} (s : String) : Legible room (.string s)
  | array {room : Nat} {items : List Json} (all : ∀ v ∈ items, Legible room v) : Legible (room + 1) (.array items)
  | object {room : Nat} {members : List (String × Json)} (all : ∀ member ∈ members, Legible room member.2) :
    Legible (room + 1) (.object members)

/-- From the text of a legible value is read what is left of it at this depth. -/
theorem Legible.readsAs {room depth : Nat} {v : Json} (legible : Legible room v) :
    ReadsAs depth v (v.clip (maxDepth - depth)) := by
  induction legible generalizing depth with
  | null =>
    intro level fuel rest enough ends
    obtain ⟨fuel, rfl⟩ : ∃ left, fuel = left + 1 := ⟨fuel - 1, by omega⟩
    rw [clip_null]
    rfl
  | bool b =>
    intro level fuel rest enough ends
    obtain ⟨fuel, rfl⟩ : ∃ left, fuel = left + 1 := ⟨fuel - 1, by omega⟩
    rw [clip_bool]
    cases b <;> rfl
  | number reads =>
    intro level fuel rest enough ends
    obtain ⟨fuel, rfl⟩ : ∃ left, fuel = left + 1 := ⟨fuel - 1, by omega⟩
    rw [clip_number]
    exact reads.readValue_append ends
  | string s =>
    intro level fuel rest enough ends
    obtain ⟨fuel, rfl⟩ : ∃ left, fuel = left + 1 := ⟨fuel - 1, by omega⟩
    rw [clip_string]
    exact readValue_stringText s rest
  | @array room items all ih =>
    intro level fuel rest enough ends
    obtain ⟨fuel, rfl⟩ : ∃ left, fuel = left + 1 := ⟨fuel - 1, by omega⟩
    rw [clip_array]
    cases items with
    | nil => rfl
    | cons v items =>
      have each : ∀ w ∈ v :: items, ReadsAs (depth + 1) w (w.clip (maxDepth - (depth + 1))) := fun w member => ih w member
      obtain ⟨first, others⟩ := List.forall_mem_cons.mp each
      have shorter : (layOut (level + 1) v ++ layOutItems level items).length + 1 < fuel := by
        simp only [layOut, newLine, List.length_append, List.length_cons] at enough ⊢
        omega
      -- The line break before the first item is skipped with the space before a value.
      have found := readItems_layOut first others shorter rest
      rw [← readItems_skipSpace, ← skipSpace_newLine (level + 1), readItems_skipSpace] at found
      simp only [layOut, List.cons_append, List.append_assoc, List.nil_append]
      exact readValue_array found
  | @object room members all ih =>
    intro level fuel rest enough ends
    obtain ⟨fuel, rfl⟩ : ∃ left, fuel = left + 1 := ⟨fuel - 1, by omega⟩
    rw [clip_object]
    cases members with
    | nil => rfl
    | cons member members =>
      obtain ⟨key, v⟩ := member
      have each : ∀ member ∈ (key, v) :: members,
          ReadsAs (depth + 1) member.2 (member.2.clip (maxDepth - (depth + 1))) := fun member among => ih member among
      obtain ⟨first, others⟩ := List.forall_mem_cons.mp each
      have shorter : (layOut (level + 1) v ++ layOutMembers level members).length + 1 < fuel := by
        simp only [layOut, newLine, List.length_append, List.length_cons] at enough ⊢
        omega
      have found := readMembers_layOut key first others shorter rest
      rw [← readMembers_skipSpace, ← skipSpace_newLine (level + 1), readMembers_skipSpace] at found
      simp only [layOut, List.cons_append, List.append_assoc, List.nil_append]
      exact readValue_object found

/-- Where there is room for a value, it is left whole. -/
theorem Legible.clip_eq {room more : Nat} {v : Json} (legible : Legible room v) (enough : room ≤ more) :
    v.clip more = v := by
  induction legible generalizing more with
  | null => exact clip_null more
  | bool b => exact clip_bool more b
  | @number _ n => exact clip_number more n
  | string s => exact clip_string more s
  | array _ ih =>
    obtain ⟨more, rfl⟩ : ∃ less, more = less + 1 := ⟨more - 1, by omega⟩
    rw [clip, List.map_congr_left fun v member => ih v member (by omega), List.map_id']
  | object _ ih =>
    obtain ⟨more, rfl⟩ : ∃ less, more = less + 1 := ⟨more - 1, by omega⟩
    rw [clip, List.map_congr_left fun member among => by rw [ih member among (by omega)], List.map_id']

theorem Legible.parse_pretty_eq_clip {room : Nat} {v : Json} (legible : Legible room v) :
    parse v.pretty = some (v.clip maxDepth) := by
  have text : v.pretty.toList = layOut 0 v := String.toList_ofList
  have found : readValue (2 * v.pretty.length + 2) 0 (layOut 0 v ++ []) = some (v.clip maxDepth, []) := by
    refine legible.readsAs 0 _ [] ?_ (by rintro c ⟨⟩)
    rw [← text, String.length_toList]
    omega
  rw [List.append_nil] at found
  rw [parse, text, found]
  rfl

/-- A legible value is read back from its text. -/
theorem Legible.parse_pretty {v : Json} (legible : Legible maxDepth v) : parse v.pretty = some v := by
  rw [legible.parse_pretty_eq_clip, legible.clip_eq le_rfl]

end Plumbline.Json
