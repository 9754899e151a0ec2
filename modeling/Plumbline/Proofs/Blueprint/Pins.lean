import Plumbline.Proofs.Blueprint.Rows
import Plumbline.Proofs.Text.Class
import Plumbline.Proofs.Text.Search

namespace Plumbline.Dependencies

open Text

theorem not_isVersionLead_of_numbered {c : Char} (numbered : c.isDigit = true ∨ c = '.') : isVersionLead c = false := by
  by_contra lead
  have signs : c ∈ ['\x22', '^', '~', '>', '='] := List.contains_iff_mem.mp (Bool.of_not_eq_false lead)
  simp only [List.mem_cons, List.not_mem_nil, or_false] at signs
  rcases signs with rfl | rfl | rfl | rfl | rfl <;> revert numbered <;> decide

namespace Entry

variable (entry : Entry) (tail : List Char)

theorem dropWhile_value : (trimStart (entry.value ++ tail)).dropWhile isVersionLead =
    (entry.version ++ '\x22' :: tail).dropWhile isVersionLead := by
  have front : entry.value ++ tail =
      entry.right.chars ++ '\x22' :: (entry.signs ++ (entry.version ++ '\x22' :: tail)) := by
    simp [value, List.append_assoc]
  have leads : ∀ c ∈ '\x22' :: entry.signs, isVersionLead c = true := by
    refine List.forall_mem_cons.mpr ⟨by decide, fun c sign => ?_⟩
    rcases entry.signed c sign with rfl | rfl | rfl | rfl <;> decide
  rw [front, trimStart_append entry.right.isBlank, trimStart_cons (by decide), ← List.cons_append,
    List.dropWhile_append_of_pos leads]

/-- The version of an entry is read if it begins with a digit. -/
theorem readVersion_value (ends : ∀ c ∈ tail.head?, c = '\n') :
    readVersion ((trimStart (entry.value ++ tail)).dropWhile isVersionLead) =
      if entry.isPinned then some (entry.version, '\x22' :: tail) else .none := by
  rw [dropWhile_value, isPinned]
  have numbered := entry.numbered
  cases digits : entry.version with
  | nil =>
    -- without a version the closing quote is passed over too
    have stays : tail.dropWhile isVersionLead = tail :=
      dropWhile_eq_self fun c first => by rw [ends c first]; decide
    have dropped : ('\x22' :: tail).dropWhile isVersionLead = tail :=
      (List.dropWhile_cons_of_pos (by decide)).trans stays
    rw [List.nil_append, dropped]
    cases tail with
    | nil => rfl
    | cons c tail =>
      rw [ends c rfl]
      rfl
  | cons d version =>
    rw [digits] at numbered
    have first := not_isVersionLead_of_numbered (numbered d List.mem_cons_self)
    have taken : some? (fun c => c.isDigit || c == '.') (d :: version ++ '\x22' :: tail) =
        some (d :: version, '\x22' :: tail) := by
      refine some?_append (List.cons_ne_nil d version) (fun c member => ?_) fun c here => ?_
      · simpa using numbered c member
      · cases here
        decide
    rw [List.cons_append, List.dropWhile_cons_of_neg (by simp [first]), readVersion, ← List.cons_append, taken]
    rfl

theorem trimStart_rest : trimStart (entry.rest ++ tail) = '=' :: (entry.value ++ tail) := by
  rw [rest, List.append_assoc, trimStart_append entry.left.isBlank]
  exact trimStart_cons (by decide) _

theorem not_isNameChar_of_head_rest : ∀ c ∈ (entry.rest ++ tail).head?, isNameChar c = false := by
  intro c first
  rcases entry.head_rest tail c first with rfl | rfl | rfl <;> decide

variable {letters : List Char} (nonempty : letters ≠ []) (named : ∀ c ∈ letters, isNameChar c = true)

include nonempty named in
theorem some?_name : some? isNameChar (letters ++ (entry.rest ++ tail)) = some (letters, entry.rest ++ tail) :=
  some?_append nonempty named (entry.not_isNameChar_of_head_rest tail)

variable (ends : ∀ c ∈ tail.head?, c = '\n')

include nonempty named ends in
/-- What is read where letters stand before the rest of an entry. -/
theorem readPinMention_eq (before : Option Char) : readPinMention before (letters ++ (entry.rest ++ tail)) =
    if (letters.head?.map fun c => 'a' ≤ c && c ≤ 'z').getD false && !(letters.length < 2 : Bool) && entry.isPinned then
      some ((letters, entry.version), '\x22' :: tail) else .none := by
  have first : (letters ++ (entry.rest ++ tail)).head? = letters.head? := by
    obtain ⟨c, letters, rfl⟩ := List.exists_cons_of_ne_nil nonempty
    rfl
  rw [readPinMention, first]
  by_cases small : (letters.head?.map fun c => 'a' ≤ c && c ≤ 'z').getD false = true
  · simp only [small, entry.some?_name tail nonempty named, Bool.not_true, Bool.false_eq_true, if_false, bind, Option.bind,
      entry.trimStart_rest]
    by_cases short : letters.length < 2
    · simp only [short, if_true, decide_true, Bool.not_true, Bool.and_false, Bool.false_and, Bool.false_eq_true, if_false]
    · rw [if_neg short, entry.readVersion_value tail ends]
      cases entry.isPinned <;> simp [short]
  · simp [small]

theorem readPinMention_name (ends : ∀ c ∈ tail.head?, c = '\n') (before : Option Char) :
    readPinMention before (entry.name.toList ++ (entry.rest ++ tail)) =
      if entry.isPinned then some (entry.pin, '\x22' :: tail) else .none := by
  rw [entry.readPinMention_eq tail entry.name_ne_nil entry.isNameChar_of_mem_name ends, pin]
  obtain ⟨c, d, letters, same, low, high, _⟩ := entry.exists_name_eq
  simp [same, low, high]

theorem readPinLine_name (ends : ∀ c ∈ tail.head?, c = '\n') (before : Option Char) :
    readPinLine before (entry.name.toList ++ (entry.rest ++ tail)) =
      if atLineStart before && entry.isPinned then some (entry.pin, '\x22' :: tail) else .none := by
  have taken := entry.some?_name tail entry.name_ne_nil entry.isNameChar_of_mem_name
  obtain ⟨c, d, letters, same, _, _, word, solid, unquoted⟩ := entry.exists_name_eq
  have start : trimStart (entry.name.toList ++ (entry.rest ++ tail)) = entry.name.toList ++ (entry.rest ++ tail) := by
    rw [same]
    exact trimStart_cons solid _
  have unquotedName : after? ['\x22'] (entry.name.toList ++ (entry.rest ++ tail)) = .none := by
    rw [same]
    exact if_neg (Ne.symm unquoted)
  have unquotedRest : after? ['\x22'] (entry.rest ++ tail) = .none := by
    rw [rest]
    cases gap : entry.left.chars with
    | nil => rfl
    | cons d gap' => rcases entry.left.blank d (gap ▸ List.mem_cons_self) with rfl | rfl <;> rfl
  have first : (entry.name.toList ++ (entry.rest ++ tail)).head? = some c := by rw [same]; rfl
  rw [readPinLine]
  cases began : atLineStart before with
  | false => simp
  | true =>
    cases pinned : entry.isPinned <;>
      simp [start, unquotedName, first, word, taken, unquotedRest, entry.trimStart_rest, after?,
        entry.readVersion_value tail ends, pinned, pin]

end Entry

section Line

variable {lead s : List Char}

theorem readPinLine_append (blank : ∀ c ∈ lead, isBlank c = true) (before : Option Char) :
    readPinLine before (lead ++ s) = readPinLine before s := by
  rw [readPinLine, readPinLine, trimStart_append blank]

theorem readPinLine_of_not_start {before : Option Char} (inside : atLineStart before = false) :
    readPinLine before s = .none := by
  rw [readPinLine, inside]
  rfl

theorem readPinLine_bracket (before : Option Char) : readPinLine before ('[' :: s) = .none := by
  have start : trimStart ('[' :: s) = '[' :: s := trimStart_cons (by decide) s
  have word : isWord '[' = false := by decide
  simp [readPinLine, start, after?, word]

theorem readPinLine_nil (before : Option Char) : readPinLine before [] = .none := by
  simp [readPinLine, trimStart, after?]

end Line

section Mention

variable {before : Option Char} {s : List Char}

theorem readPinMention_of_head {c : Char} (other : ¬ ('a' ≤ c ∧ c ≤ 'z')) :
    readPinMention before (c :: s) = .none := by
  have large : (decide ('a' ≤ c) && decide (c ≤ 'z')) = false := Bool.eq_false_iff.mpr (by simpa using other)
  simp only [readPinMention, List.head?_cons, Option.map_some, Option.getD_some, large]
  rfl

/-- The first character of a mention that is neither part of a name nor white space is an equals sign or a colon. -/
theorem head_of_readPinMention {found : (List Char × List Char) × List Char}
    (reads : readPinMention before s = some found) :
    ∃ c ∈ (s.dropWhile fun c => isNameChar c || isBlank c).head?, c = '=' ∨ c = ':' := by
  rw [readPinMention] at reads
  split at reads
  · cases reads
  obtain ⟨⟨name, rest⟩, word, reads⟩ := Option.bind_eq_some_iff.mp reads
  dsimp only at reads
  split at reads
  · cases reads
  split at reads
  · rename_i c more here
    split at reads
    · cases reads
    rename_i sign
    have sign : c = '=' ∨ c = ':' := by simpa [or_iff_not_imp_left] using sign
    obtain ⟨split, _, named⟩ := some?_eq_some word
    have gap : rest.takeWhile isBlank ++ c :: more = rest := here ▸ List.takeWhile_append_dropWhile
    have passed : ∀ d ∈ name ++ rest.takeWhile isBlank, (isNameChar d || isBlank d) = true := by
      intro d member
      rcases List.mem_append.mp member with inName | inGap
      · rw [named d inName, Bool.true_or]
      · rw [List.mem_takeWhile_imp inGap, Bool.or_true]
    have stops : (isNameChar c || isBlank c) = false := by rcases sign with rfl | rfl <;> decide
    have dropped : s.dropWhile (fun c => isNameChar c || isBlank c) = c :: more := by
      rw [split, ← gap, ← List.append_assoc, List.dropWhile_append_of_pos passed,
        List.dropWhile_cons_of_neg (by simp [stops])]
    exact ⟨c, by rw [dropped]; rfl, sign⟩
  · cases reads

/-- Nothing is mentioned where an equals sign and a colon are missing up to a closing bracket. -/
theorem readPinMention_bracket {chars second : List Char} (noEquals : '=' ∉ chars) (noColon : ':' ∉ chars)
    (ends : second <:+ chars ++ [']']) (nonempty : second ≠ []) (tail : List Char) :
    readPinMention before (second ++ tail) = .none := by
  cases reads : readPinMention before (second ++ tail) with
  | none => rfl
  | some found =>
    exfalso
    obtain ⟨c, head, sign⟩ := head_of_readPinMention reads
    have last : ']' ∈ second := by
      obtain ⟨first, split⟩ := ends
      have same : (first ++ second).getLast? = some ']' := by rw [split, List.getLast?_concat]
      rw [List.getLast?_append, List.getLast?_eq_some_getLast nonempty, Option.some_or] at same
      exact Option.some.inj same ▸ List.getLast_mem nonempty
    have stays : second.dropWhile (fun c => isNameChar c || isBlank c) ≠ [] := by
      intro none
      have passed := List.dropWhile_eq_nil_iff.mp none ']' last
      exact absurd passed (by decide)
    rw [List.dropWhile_append, if_neg (by simpa using stays), List.head?_append, List.head?_eq_some_head stays,
      Option.some_or] at head
    have inside : c ∈ chars ++ [']'] := by
      rw [← Option.some.inj head]
      exact ends.subset (List.dropWhile_subset _ (List.head_mem stays))
    rcases List.mem_append.mp inside with inName | closing
    · rcases sign with rfl | rfl
      · exact noEquals inName
      · exact noColon inName
    · rw [List.mem_singleton.mp closing] at sign
      exact absurd sign (by decide)

/-- A name of a table without equals signs and colons. -/
def Table.ofPlain (chars : List Char) (noFeed : '\n' ∉ chars) (noEquals : '=' ∉ chars) (noColon : ':' ∉ chars) : Table :=
  ⟨chars, noFeed, fun _ ends nonempty => readPinMention_bracket noEquals noColon ends nonempty⟩

theorem readPinMention_heading (table : Table) {first second : List Char} (tail : List Char)
    (split : (Row.heading table).chars = first ++ second) (nonempty : second ≠ []) :
    readPinMention before (second ++ tail) = .none := by
  cases first with
  | nil =>
    rw [List.nil_append] at split
    rw [← split]
    exact readPinMention_of_head (by decide)
  | cons c first => exact table.silent second ⟨first, (List.cons.inj split).2.symm⟩ nonempty tail

end Mention

section Search

variable {rows : List Row}

/-- The mentions of dependencies in a block are its entries, as far as their versions begin with digits. -/
theorem findAll_readPinMention_blockText (rows : List Row) (before : Option Char) :
    findAll readPinMention before (blockText rows) = pins rows := by
  induction rows generalizing before with
  | nil => simp [blockText, findAll, pins, entries]
  | cons row rest ih =>
    have later (before : Option Char) : findAll readPinMention before (behind rest) = pins rest := by
      cases rest with
      | nil => simp [behind, findAll, pins, entries]
      | cons next rest =>
        have feed : behind (next :: rest) = '\n' :: blockText (next :: rest) := rfl
        rw [feed, findAll, readPinMention_of_head (by decide), ih]
    rw [blockText_cons]
    cases row with
    | blank gap =>
      rw [findAll_of_fails, later, pins_cons_of_not_entry rfl]
      intro first second split nonempty
      obtain ⟨c, second, rfl⟩ := List.exists_cons_of_ne_nil nonempty
      have member : c ∈ (Row.blank gap).chars := split ▸ List.mem_append_right first List.mem_cons_self
      refine readPinMention_of_head ?_
      rcases gap.blank c member with rfl | rfl <;> decide
    | heading table =>
      rw [findAll_of_fails, later, pins_cons_of_not_entry rfl]
      exact fun first second split nonempty => readPinMention_heading table _ split nonempty
    | entry given =>
      have ends := head?_behind rest
      rw [pins_cons_entry]
      cases pinned : given.isPinned with
      | true =>
        have reads := given.readPinMention_name (behind rest) ends before
        rw [if_pos pinned, ← given.front_append] at reads
        rw [Row.chars, List.append_assoc, ← given.front_append, findAll_of_reads given.front_ne_nil reads, findAll,
          readPinMention_of_head (by decide)]
        exact congrArg _ (later _)
      | false =>
        rw [findAll_of_fails, later]
        · rfl
        intro first second split nonempty
        rcases List.append_eq_append_iff.mp split with ⟨skipped, rfl, inRest⟩ | ⟨letters, inName, rfl⟩
        · obtain ⟨c, second, rfl⟩ := List.exists_cons_of_ne_nil nonempty
          have member : c ∈ given.rest := inRest ▸ List.mem_append_right skipped List.mem_cons_self
          exact readPinMention_of_head (given.not_letter_of_mem_rest c member)
        · by_cases none : letters = []
          · subst none
            obtain ⟨c, rest', same⟩ := List.exists_cons_of_ne_nil nonempty
            have member : c ∈ given.rest := by
              rw [List.nil_append] at same
              exact same ▸ List.mem_cons_self
            rw [same]
            exact readPinMention_of_head (given.not_letter_of_mem_rest c member)
          · have named : ∀ c ∈ letters, isNameChar c = true := fun c member =>
              given.isNameChar_of_mem_name c (inName ▸ List.mem_append_right first member)
            rw [List.append_assoc, given.readPinMention_eq _ none named ends, pinned]
            simp

theorem atLineStart_of_mem {w : List Char} {before : Option Char} (nonempty : w ≠ []) (noFeed : '\n' ∉ w) :
    atLineStart (w.getLast?.or before) = false := by
  rw [List.getLast?_eq_some_getLast nonempty, Option.some_or]
  have apart : w.getLast nonempty ≠ '\n' := fun same => noFeed (same ▸ List.getLast_mem nonempty)
  simpa [atLineStart] using apart

/-- A row that pins nothing is passed over, with the blank lines before it. -/
theorem findAll_readPinLine_of_fails {lead w tail : List Char} (blank : ∀ c ∈ lead, isBlank c = true)
    (noFeed : '\n' ∉ w) (fails : ∀ before, readPinLine before (w ++ tail) = .none) (before : Option Char) :
    findAll readPinLine before (lead ++ (w ++ tail)) = findAll readPinLine ((lead ++ w).getLast?.or before) tail := by
  rw [← List.append_assoc]
  refine findAll_of_fails fun first second split nonempty => ?_
  rcases List.append_eq_append_iff.mp split with ⟨skipped, rfl, inRow⟩ | ⟨gap, inLead, rfl⟩
  · cases skipped with
    | nil =>
      rw [List.nil_append] at inRow
      rw [← inRow]
      exact fails _
    | cons c skipped =>
      refine readPinLine_of_not_start ?_
      have inside : '\n' ∉ c :: skipped := fun feed => noFeed (inRow ▸ List.mem_append_left second feed)
      rw [List.getLast?_append, Option.or_assoc]
      exact atLineStart_of_mem (List.cons_ne_nil c skipped) inside
  · have blankGap : ∀ c ∈ gap, isBlank c = true := fun c member =>
      blank c (inLead ▸ List.mem_append_right first member)
    rw [List.append_assoc, readPinLine_append blankGap]
    exact fails _

theorem findAll_readPinLine_blank {lead : List Char} (blank : ∀ c ∈ lead, isBlank c = true) (before : Option Char) :
    findAll readPinLine before lead = [] := by
  have passed := findAll_readPinLine_of_fails blank List.not_mem_nil readPinLine_nil before
  rw [List.append_nil, List.append_nil] at passed
  rw [passed, findAll]

/-- The lines of a block that pin packages are its entries, as far as their versions begin with digits. Blank lines are
read together with what stands below them. -/
theorem findAll_readPinLine_blockText (rows : List Row) {lead : List Char} {before : Option Char}
    (blank : ∀ c ∈ lead, isBlank c = true) (start : atLineStart before = true) :
    findAll readPinLine before (lead ++ blockText rows) = pins rows := by
  induction rows generalizing lead before with
  | nil =>
    have nothing : blockText [] = [] := rfl
    rw [nothing, List.append_nil]
    exact findAll_readPinLine_blank blank before
  | cons row rest ih =>
    have later {before : Option Char} (inside : atLineStart before = false) :
        findAll readPinLine before (behind rest) = pins rest := by
      cases rest with
      | nil => exact findAll_readPinLine_blank (List.forall_mem_nil _) before
      | cons next rest =>
        have feed : behind (next :: rest) = '\n' :: blockText (next :: rest) := rfl
        rw [feed, findAll, readPinLine_of_not_start inside]
        exact ih (List.forall_mem_nil _) rfl
    have inside {w : List Char} (nonempty : w ≠ []) (noFeed : '\n' ∉ w) (before : Option Char) :
        atLineStart ((lead ++ w).getLast?.or before) = false := by
      rw [List.getLast?_append, Option.or_assoc]
      exact atLineStart_of_mem nonempty noFeed
    have noFeed := row.not_feed_mem
    rw [blockText_cons]
    cases row with
    | blank gap =>
      rw [pins_cons_of_not_entry rfl]
      have blank' : ∀ c ∈ lead ++ gap.chars, isBlank c = true := List.forall_mem_append.mpr ⟨blank, gap.isBlank⟩
      cases rest with
      | nil =>
        rw [behind, List.append_nil]
        exact findAll_readPinLine_blank blank' before
      | cons next rest =>
        have moved : lead ++ (gap.chars ++ '\n' :: blockText (next :: rest)) =
            lead ++ gap.chars ++ ['\n'] ++ blockText (next :: rest) := by simp [List.append_assoc]
        refine Eq.trans (congrArg _ moved) (ih ?_ start)
        exact List.forall_mem_append.mpr ⟨blank', List.forall_mem_singleton.mpr (by decide)⟩
    | heading table =>
      rw [pins_cons_of_not_entry rfl, findAll_readPinLine_of_fails blank noFeed fun _ => readPinLine_bracket _]
      exact later (inside (List.cons_ne_nil _ _) noFeed before)
    | entry given =>
      have ends := head?_behind rest
      have reads := given.readPinLine_name (behind rest) ends
      rw [pins_cons_entry]
      cases pinned : given.isPinned with
      | true =>
        have readsHere : readPinLine before (lead ++ given.front ++ '\x22' :: behind rest) =
            some (given.pin, '\x22' :: behind rest) := by
          rw [List.append_assoc, readPinLine_append blank, given.front_append, reads, start, pinned]
          rfl
        have frontNoFeed : '\n' ∉ given.front := fun feed =>
          noFeed (given.front_concat ▸ List.mem_append_left _ feed)
        have nonempty : lead ++ given.front ≠ [] := List.append_ne_nil_of_right_ne_nil lead given.front_ne_nil
        have open' : atLineStart (lead ++ given.front).getLast? = false := by
          have last := inside given.front_ne_nil frontNoFeed .none
          rwa [Option.or_none] at last
        rw [Row.chars, List.append_assoc, ← given.front_append, ← List.append_assoc,
          findAll_of_reads nonempty readsHere, findAll, readPinLine_of_not_start open']
        exact congrArg _ (later rfl)
      | false =>
        have fails (before : Option Char) : readPinLine before ((Row.entry given).chars ++ behind rest) = .none := by
          rw [Row.chars, List.append_assoc, reads, pinned, Bool.and_false]
          rfl
        rw [findAll_readPinLine_of_fails blank noFeed fails]
        exact later (inside (List.append_ne_nil_of_left_ne_nil given.name_ne_nil _) noFeed before)

end Search

end Plumbline.Dependencies
