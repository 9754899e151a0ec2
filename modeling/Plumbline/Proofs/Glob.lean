import Mathlib.Data.List.Basic
import Plumbline.Glob.Expression

namespace Plumbline.Glob

/-- Whether a character stands for itself in a glob. -/
def isPlain (c : Char) : Bool := !(['?', '*', '\x7b', '\x7d', ',', '\\', '['].contains c)

/-- Characters of a class without signs stand for themselves. -/
theorem isPlain_of_class {p : Char → Bool}
    (strange : ['?', '*', '\x7b', '\x7d', ',', '\\', '['].any p = false) {c : Char} (member : p c = true) :
    isPlain c = true := by
  rw [isPlain, Bool.not_eq_true', ← Bool.not_eq_true, List.contains_iff_mem]
  exact fun sign => List.any_eq_false.mp strange c sign member

theorem read_of_plain {fuel : Nat} {level : Level} {s : List Char} (plain : ∀ c ∈ s, isPlain c = true)
    (enough : s.length < fuel) : read fuel [] level s = .ok (level.tokens.reverse ++ s.map .literal) := by
  induction s generalizing fuel level with
  | nil =>
    obtain ⟨fuel, rfl⟩ := Nat.exists_eq_succ_of_ne_zero (Nat.ne_of_gt enough)
    simp [read]
  | cons c s ih =>
    obtain ⟨here, plain⟩ := List.forall_mem_cons.mp plain
    obtain ⟨fuel, rfl⟩ := Nat.exists_eq_succ_of_ne_zero (Nat.ne_of_gt (Nat.zero_lt_of_lt enough))
    simp only [isPlain, List.contains_cons, List.contains_nil, Bool.or_false, Bool.not_eq_true', Bool.or_eq_false_iff,
      beq_eq_false_iff_ne] at here
    obtain ⟨question, star, opening, closing, comma, escape, bracket⟩ := here
    have later : read fuel [] (level.push (.literal c)) s =
        .ok ((level.push (.literal c)).tokens.reverse ++ s.map .literal) := ih plain (Nat.lt_of_succ_lt_succ enough)
    simpa [read, question, star, opening, closing, comma, escape, bracket, Level.push] using later

theorem parse_of_plain {s : List Char} (plain : s.all isPlain) : parse s = .ok (s.map .literal) :=
  read_of_plain (List.all_eq_true.mp plain) (Nat.lt_succ_self _)

theorem parse_star_of_plain {s : List Char} (plain : s.all isPlain) :
    parse ('*' :: s) = .ok (.many :: s.map .literal) := by
  have rest : read (s.length + 1) [] ⟨[], [.many]⟩ s = .ok (.many :: s.map .literal) :=
    read_of_plain (List.all_eq_true.mp plain) (Nat.lt_succ_self s.length)
  simpa [parse, read, Level.push] using rest

theorem runDepth_literals (cs : List Char) : runDepth (cs.map .literal) = 0 := by
  induction cs with
  | nil => rfl
  | cons c cs ih => rw [List.map_cons, runDepth, ih, Token.depth, Nat.max_self]

theorem runSize_literals (cs : List Char) : runSize (cs.map .literal) = stateSize * (String.ofList cs).utf8ByteSize := by
  induction cs with
  | nil => rfl
  | cons c cs ih =>
    have bytes : (String.ofList (c :: cs)).utf8ByteSize = c.utf8Size + (String.ofList cs).utf8ByteSize := by
      rw [String.ofList_cons, String.utf8ByteSize_append, String.utf8ByteSize_singleton]
    rw [List.map_cons, runSize, ih, Token.size, bytes, Nat.mul_add]

/-- How many bytes a text may have that stands for itself in a glob. -/
def maxLength : Nat := maxSize / stateSize - 6

/-- The expression of a text that stands for itself is refused for its length only. -/
theorem isRefused_literals {cs : List Char} :
    isRefused (cs.map .literal) = true ↔ maxLength < (String.ofList cs).utf8ByteSize := by
  have shallow : isTooDeep (cs.map .literal) = false := by
    rw [isTooDeep, runDepth_literals]
    rfl
  rw [isRefused, shallow, Bool.false_or, isTooLarge, runSize_literals, decide_eq_true_iff, maxLength, maxSize, stateSize]
  omega

theorem mem_suffixes {s rest : List UInt8} : rest ∈ suffixes s ↔ rest <:+ s := by
  induction s with
  | nil => simp [suffixes]
  | cons b s ih => rw [suffixes, List.mem_cons, ih, List.suffix_cons_iff]

theorem mem_afterBytes {lead s rest : List UInt8} : rest ∈ afterBytes lead s ↔ s = lead ++ rest := by
  induction lead generalizing s with
  | nil => simp [afterBytes, eq_comm]
  | cons a lead ih =>
    cases s with
    | nil => simp [afterBytes]
    | cons b s => by_cases same : a = b <;> simp [afterBytes, same, ih, eq_comm]

theorem mem_sequenceEnds {tokens : List Token} {starts : List (List UInt8)} {rest : List UInt8} :
    rest ∈ sequenceEnds tokens starts ↔ ∃ s ∈ starts, rest ∈ sequenceEnds tokens [s] := by
  induction tokens generalizing starts with
  | nil => simp [sequenceEnds]
  | cons token tokens ih =>
    have through : ∀ starts, rest ∈ sequenceEnds (token :: tokens) starts ↔
        ∃ middle ∈ starts.flatMap token.ends, rest ∈ sequenceEnds tokens [middle] := by
      intro starts
      rw [sequenceEnds, ih]
      simp only [List.mem_eraseDups]
    rw [through]
    simp only [through, List.mem_flatMap, List.mem_singleton, exists_eq_left]
    constructor
    · rintro ⟨middle, ⟨s, start, ends⟩, later⟩
      exact ⟨s, start, middle, ends, later⟩
    · rintro ⟨s, start, middle, ends, later⟩
      exact ⟨middle, ⟨s, start, ends⟩, later⟩

theorem mem_sequenceEnds_nil {s rest : List UInt8} : rest ∈ sequenceEnds [] [s] ↔ rest = s := by
  rw [sequenceEnds, List.mem_singleton]

/-- A token and those behind it match in two steps. -/
theorem mem_sequenceEnds_cons {token : Token} {tokens : List Token} {s rest : List UInt8} :
    rest ∈ sequenceEnds (token :: tokens) [s] ↔ ∃ middle ∈ token.ends s, rest ∈ sequenceEnds tokens [middle] := by
  rw [sequenceEnds, mem_sequenceEnds]
  simp [List.mem_eraseDups]

theorem mem_sequenceEnds_append {cs : List Char} {tokens : List Token} {s rest : List UInt8} :
    rest ∈ sequenceEnds (cs.map .literal ++ tokens) [s] ↔
      ∃ middle, s = cs.flatMap bytesOf ++ middle ∧ rest ∈ sequenceEnds tokens [middle] := by
  induction cs generalizing s with
  | nil => simp
  | cons c cs ih =>
    simp only [List.map_cons, List.cons_append, mem_sequenceEnds_cons, ih, Token.ends, mem_afterBytes, List.flatMap_cons,
      List.append_assoc]
    constructor
    · rintro ⟨_, rfl, middle, rfl, ends⟩
      exact ⟨middle, rfl, ends⟩
    · rintro ⟨middle, rfl, ends⟩
      exact ⟨_, rfl, middle, rfl, ends⟩

theorem mem_sequenceEnds_literals {cs : List Char} {s rest : List UInt8} :
    rest ∈ sequenceEnds (cs.map .literal) [s] ↔ s = cs.flatMap bytesOf ++ rest := by
  rw [← List.append_nil (cs.map Token.literal), mem_sequenceEnds_append]
  simp [sequenceEnds]

theorem isVoidRun_literals {cs : List Char} (nonempty : cs ≠ []) : isVoidRun (cs.map .literal) = false := by
  obtain ⟨c, cs, rfl⟩ := List.exists_cons_of_ne_nil nonempty
  simp [isVoidRun, Token.isVoid]

theorem mem_choiceEnds_literals {branches : List (List Char)} (solid : ∀ branch ∈ branches, branch ≠ [])
    {s rest : List UInt8} : rest ∈ choiceEnds (branches.map (·.map .literal)) s ↔
      ∃ branch ∈ branches, s = branch.flatMap bytesOf ++ rest := by
  induction branches with
  | nil => simp [choiceEnds]
  | cons branch branches ih =>
    obtain ⟨here, solid⟩ := List.forall_mem_cons.mp solid
    rw [List.map_cons, choiceEnds, isVoidRun_literals here, List.mem_append, ih solid, List.exists_mem_cons_iff]
    exact or_congr_left mem_sequenceEnds_literals

theorem mem_ends_choice {branches : List (List Char)} (solid : ∀ branch ∈ branches, branch ≠ []) (some : branches ≠ [])
    {s rest : List UInt8} : rest ∈ (Token.choice (branches.map (·.map .literal))).ends s ↔
      ∃ branch ∈ branches, s = branch.flatMap bytesOf ++ rest := by
  have asks : areVoid (branches.map (·.map .literal)) = false := by
    obtain ⟨branch, branches, rfl⟩ := List.exists_cons_of_ne_nil some
    rw [List.map_cons, areVoid, isVoidRun_literals (solid branch List.mem_cons_self), Bool.false_and]
  rw [Token.ends, asks]
  exact mem_choiceEnds_literals solid

theorem isMatch_iff {tokens : List Token} {name : String} :
    isMatch tokens name = true ↔ [] ∈ sequenceEnds tokens [name.toUTF8.toList] := by
  simp [isMatch, List.any_eq_true]

section Bytes

theorem toList_loop (bytes : ByteArray) (i : Nat) (taken : List UInt8) :
    ByteArray.toList.loop bytes i taken = taken.reverse ++ bytes.data.toList.drop i := by
  fun_induction ByteArray.toList.loop bytes i taken with
  | case1 i taken inside ih =>
    have here : i < bytes.data.toList.length := inside
    have first : bytes.get! i = bytes.data.toList[i] := by
      rw [Array.getElem_toList]
      exact getElem!_pos bytes.data i inside
    rw [ih, List.drop_eq_getElem_cons here, first]
    simp
  | case2 i taken past =>
    have none : bytes.data.toList.drop i = [] := List.drop_eq_nil_of_le (Nat.le_of_not_lt past)
    rw [none, List.append_nil]

theorem toList_eq_data (bytes : ByteArray) : bytes.toList = bytes.data.toList := by
  simp [ByteArray.toList, toList_loop]

theorem bytesOf_eq (c : Char) : bytesOf c = String.utf8EncodeChar c := by
  rw [bytesOf, String.toUTF8_eq_toByteArray, String.toByteArray_singleton, List.utf8Encode_singleton, toList_eq_data,
    List.toList_data_toByteArray]

theorem bytes_eq_flatMap (name : String) : name.toUTF8.toList = name.toList.flatMap bytesOf := by
  have characters : name.toUTF8 = (name.toList.flatMap String.utf8EncodeChar).toByteArray :=
    String.toUTF8_eq_toByteArray.trans String.utf8Encode_toList.symm
  rw [characters, toList_eq_data, List.toList_data_toByteArray]
  exact List.flatMap_congr fun c _ => (bytesOf_eq c).symm

theorem flatMap_bytesOf_inj {cs ds : List Char} (same : cs.flatMap bytesOf = ds.flatMap bytesOf) : cs = ds := by
  have bytes : (String.ofList cs).toUTF8 = (String.ofList ds).toUTF8 := by
    apply ByteArray.ext
    apply Array.toList_inj.mp
    rw [← toList_eq_data, ← toList_eq_data, bytes_eq_flatMap, bytes_eq_flatMap, String.toList_ofList,
      String.toList_ofList, same]
  exact String.ofList_inj.mp (String.toByteArray_inj.mp bytes)

/-- Only the first byte of a character looks like one. -/
theorem not_tail_of_head_bytes {c d : Char} {lead rest : List UInt8} {b : UInt8} (inside : bytesOf c = lead ++ b :: rest)
    (nonempty : lead ≠ []) : (bytesOf d).head? ≠ some b := by
  intro first
  rw [bytesOf_eq] at inside first
  have within : lead.length < (String.utf8EncodeChar c).length := by simp [inside]
  have atLead : (String.utf8EncodeChar c)[lead.length] = b := by simp [inside]
  have within' : 0 < (String.utf8EncodeChar d).length := List.length_pos_of_ne_nil String.utf8EncodeChar_ne_nil
  have atFirst : (String.utf8EncodeChar d)[0] = b := by
    rw [List.head?_eq_getElem?, List.getElem?_eq_getElem within'] at first
    exact Option.some.inj first
  have begins : b.IsUTF8FirstByte := atFirst ▸ UInt8.isUTF8FirstByte_getElem_utf8EncodeChar.mpr rfl
  have atStart : lead.length = 0 := UInt8.isUTF8FirstByte_getElem_utf8EncodeChar.mp (atLead ▸ begins)
  exact nonempty (List.length_eq_zero_iff.mp atStart)

/-- Where the bytes of some characters end like those of others, so do the characters. -/
theorem suffix_of_bytes {cs ds : List Char} {lead : List UInt8}
    (split : ds.flatMap bytesOf = lead ++ cs.flatMap bytesOf) : cs <:+ ds := by
  induction ds generalizing lead with
  | nil =>
    obtain ⟨_, none⟩ := List.append_eq_nil_iff.mp split.symm
    have empty : cs = [] := flatMap_bytesOf_inj (none.trans List.flatMap_nil.symm)
    exact empty ▸ List.nil_suffix
  | cons d ds ih =>
    rw [List.flatMap_cons] at split
    rcases List.append_eq_append_iff.mp split with ⟨lead', rfl, later⟩ | ⟨inside, within, across⟩
    · exact (ih later).trans (List.suffix_cons d ds)
    · -- The other bytes begin inside the first character: at its end, at its start, or between.
      cases inside with
      | nil =>
        have rest : ds.flatMap bytesOf = [] ++ cs.flatMap bytesOf := across.symm
        exact (ih rest).trans (List.suffix_cons d ds)
      | cons b inside =>
        by_cases whole : lead = []
        · subst whole
          have all : cs.flatMap bytesOf = (d :: ds).flatMap bytesOf := by
            rw [across, List.flatMap_cons, within, List.nil_append]
          exact flatMap_bytesOf_inj all ▸ List.suffix_refl cs
        · cases cs with
          | nil => exact List.nil_suffix
          | cons c cs =>
            have first : (bytesOf c).head? = some b := by
              rw [List.flatMap_cons] at across
              have heads := congrArg List.head? across
              rw [bytesOf_eq] at heads ⊢
              rwa [List.head?_append, List.head?_eq_some_head String.utf8EncodeChar_ne_nil, Option.some_or,
                ← List.head?_eq_some_head, List.cons_append, List.head?_cons] at heads
            exact absurd first (not_tail_of_head_bytes within whole)

/-- A glob without anything but plain characters matches one name. -/
theorem isMatch_literals {cs : List Char} {name : String} :
    isMatch (cs.map .literal) name = true ↔ name.toList = cs := by
  rw [isMatch_iff, mem_sequenceEnds_literals, List.append_nil, bytes_eq_flatMap]
  exact ⟨flatMap_bytesOf_inj, congrArg _⟩

/-- Bytes that begin with those of a character begin with no other one. -/
theorem bytesOf_append_inj {c d : Char} {rest rest' : List UInt8} (same : bytesOf c ++ rest = bytesOf d ++ rest') :
    c = d ∧ rest = rest' := by
  have decoded (c : Char) (rest : List UInt8) : (bytesOf c ++ rest).toByteArray.utf8DecodeChar? 0 = some c := by
    rw [bytesOf_eq, List.toByteArray_append]
    exact ByteArray.utf8DecodeChar?_utf8EncodeChar_append
  have character : c = d := Option.some.inj ((decoded c rest).symm.trans (same ▸ decoded d rest'))
  subst character
  exact ⟨rfl, List.append_cancel_left same⟩

/-- Where the bytes of some characters begin like those of others, so do the characters. -/
theorem exists_rest_of_bytes {cs ds : List Char} {rest : List UInt8}
    (split : ds.flatMap bytesOf = cs.flatMap bytesOf ++ rest) : ∃ more, ds = cs ++ more ∧ rest = more.flatMap bytesOf := by
  induction cs generalizing ds with
  | nil => exact ⟨ds, rfl, split.symm⟩
  | cons c cs ih =>
    rw [List.flatMap_cons, List.append_assoc] at split
    cases ds with
    | nil =>
      have none := (List.append_eq_nil_iff.mp split.symm).1
      rw [bytesOf_eq] at none
      exact absurd none String.utf8EncodeChar_ne_nil
    | cons d ds =>
      obtain ⟨rfl, later⟩ := bytesOf_append_inj split
      obtain ⟨more, rfl, others⟩ := ih later
      exact ⟨more, rfl, others⟩

/-- Plain characters around a star match the names that begin and end in these. -/
theorem isMatch_around_star {cs ds : List Char} {name : String} :
    isMatch (cs.map .literal ++ .many :: ds.map .literal) name = true ↔
      ∃ middle, name.toList = cs ++ (middle ++ ds) := by
  simp only [isMatch_iff, mem_sequenceEnds_append, mem_sequenceEnds_cons, mem_sequenceEnds_literals, Token.ends,
    mem_suffixes, List.append_nil, bytes_eq_flatMap]
  constructor
  · rintro ⟨_, begins, _, ⟨lead, rfl⟩, rfl⟩
    obtain ⟨more, same, bytes⟩ := exists_rest_of_bytes begins
    obtain ⟨middle, rfl⟩ := suffix_of_bytes bytes.symm
    exact ⟨middle, same⟩
  · rintro ⟨middle, same⟩
    exact ⟨(middle ++ ds).flatMap bytesOf, by rw [same, List.flatMap_append], _,
      ⟨middle.flatMap bytesOf, by rw [List.flatMap_append]⟩, rfl⟩

/-- A star and plain characters match the names that end in these. -/
theorem isMatch_star_literals {cs : List Char} {name : String} :
    isMatch (.many :: cs.map .literal) name = true ↔ cs <:+ name.toList :=
  (@isMatch_around_star [] cs name).trans (exists_congr fun _ => eq_comm)

/-- A star, plain characters and a choice among more match the names that end in one of the choices. -/
theorem isMatch_star_choice {cs : List Char} {branches : List (List Char)} (solid : ∀ branch ∈ branches, branch ≠ [])
    (some : branches ≠ []) {name : String} :
    isMatch (.many :: (cs.map .literal ++ [.choice (branches.map (·.map .literal))])) name = true ↔
      ∃ branch ∈ branches, cs ++ branch <:+ name.toList := by
  have star (s : List UInt8) : Token.many.ends s = suffixes s := by rw [Token.ends]
  simp only [isMatch_iff, mem_sequenceEnds_cons, mem_sequenceEnds_append, mem_sequenceEnds_nil, star,
    mem_ends_choice solid some, mem_suffixes, bytes_eq_flatMap]
  constructor
  · rintro ⟨_, ⟨lead, same⟩, _, rfl, _, ⟨branch, member, rfl⟩, rfl⟩
    rw [List.append_nil, ← List.flatMap_append] at same
    exact ⟨branch, member, suffix_of_bytes same.symm⟩
  · rintro ⟨branch, member, lead, same⟩
    refine ⟨(cs ++ branch).flatMap bytesOf, ⟨lead.flatMap bytesOf, by simp only [← same, List.flatMap_append]⟩, _,
      List.flatMap_append, _, ⟨branch, member, (List.append_nil _).symm⟩, rfl⟩

end Bytes

end Plumbline.Glob
