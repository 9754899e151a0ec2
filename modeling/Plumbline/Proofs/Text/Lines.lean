import Mathlib.Data.List.TakeWhile
import Mathlib.Tactic.ByContra
import Plumbline.Proofs.Text.Search
import Plumbline.Text.Lines

namespace Plumbline.Text

theorem dropRightWhile_eq_self {p : Char → Bool} {s : List Char} (last : ∀ c ∈ s.getLast?, p c = false) :
    dropRightWhile p s = s := by
  rcases List.eq_nil_or_concat s with rfl | ⟨lead, c, rfl⟩
  · rfl
  · have stays : p c = false := last c (by simp)
    simp [dropRightWhile, stays]

theorem mem_of_mem_dropRightWhile {p : Char → Bool} {s : List Char} {c : Char} (member : c ∈ dropRightWhile p s) :
    c ∈ s :=
  List.mem_reverse.mp (List.dropWhile_subset p (List.mem_reverse.mp member))

theorem of_getLast?_dropRightWhile {p : Char → Bool} {s : List Char} {c : Char}
    (last : (dropRightWhile p s).getLast? = some c) : p c = false := by
  rw [dropRightWhile, List.getLast?_reverse, ← List.find?_not_eq_head?_dropWhile] at last
  simpa using List.find?_some last

theorem dropRightWhile_concat {p : Char → Bool} {s : List Char} {c : Char} (dropped : p c = true) :
    dropRightWhile p (s ++ [c]) = dropRightWhile p s := by
  simp [dropRightWhile, dropped]

theorem prefix_dropRightWhile (p : Char → Bool) (s : List Char) : dropRightWhile p s <+: s := by
  rw [dropRightWhile, ← List.reverse_suffix, List.reverse_reverse]
  exact List.dropWhile_suffix p

theorem dropWhile_eq_self {p : Char → Bool} {s : List Char} (first : ∀ c ∈ s.head?, p c = false) :
    s.dropWhile p = s := by
  cases s with
  | nil => rfl
  | cons c s => simp [first c rfl]

theorem takeWhile_append_cons {p : List Char → Bool} {line : List Char} (stops : p line = false)
    (above below : List (List Char)) : (above ++ line :: below).takeWhile p = above.takeWhile p := by
  induction above with
  | nil => simp [stops]
  | cons row above ih => rw [List.cons_append, List.takeWhile_cons, List.takeWhile_cons, ih]

theorem le_length_takeWhile_iff {p : List Char → Bool} {rows : List (List Char)} {n : Nat} :
    n ≤ (rows.takeWhile p).length ↔ ∀ k < n, ∃ line ∈ rows[k]?, p line = true := by
  induction rows generalizing n with
  | nil =>
    cases n with
    | zero => simp
    | succ n =>
      refine ⟨fun long => absurd long (by simp), fun all => ?_⟩
      obtain ⟨line, atFirst, _⟩ := all 0 (Nat.succ_pos n)
      exact absurd atFirst (by simp)
  | cons line rest ih =>
    cases n with
    | zero => simp
    | succ n =>
      rw [Nat.forall_lt_succ_left']
      cases stays : p line <;> simp [stays, ih]

theorem dropRightWhile_append {p : Char → Bool} {tail : List Char} (dropped : ∀ c ∈ tail, p c = true) (s : List Char) :
    dropRightWhile p (s ++ tail) = dropRightWhile p s := by
  rw [dropRightWhile, dropRightWhile, List.reverse_append, List.dropWhile_append_of_pos]
  exact fun c member => dropped c (List.mem_reverse.mp member)

theorem dropRightWhile_append_of_ne_nil {p : Char → Bool} {s : List Char} (stays : dropRightWhile p s ≠ [])
    (lead : List Char) : dropRightWhile p (lead ++ s) = lead ++ dropRightWhile p s := by
  have stays' : s.reverse.dropWhile p ≠ [] := fun none => stays (by rw [dropRightWhile, none, List.reverse_nil])
  rw [dropRightWhile, dropRightWhile, List.reverse_append, List.dropWhile_append, if_neg (by simpa using stays'),
    List.reverse_append, List.reverse_reverse]

theorem dropRightWhile_append_of_getLast? {p : Char → Bool} {lead : List Char} (last : ∀ c ∈ lead.getLast?, p c = false)
    (s : List Char) : dropRightWhile p (lead ++ s) = lead ++ dropRightWhile p s := by
  by_cases stays : dropRightWhile p s = []
  · have dropped : ∀ c ∈ s, p c = true := by
      rw [dropRightWhile, List.reverse_eq_nil_iff, List.dropWhile_eq_nil_iff] at stays
      exact fun c member => stays c (List.mem_reverse.mpr member)
    rw [stays, List.append_nil, dropRightWhile_append dropped, dropRightWhile_eq_self last]
  · exact dropRightWhile_append_of_ne_nil stays lead

/-- What is stripped from both ends of a text leaves what stands between. -/
theorem stripWhile_append {p : Char → Bool} {lead s tail : List Char} (before : ∀ c ∈ lead, p c = true)
    (behind : ∀ c ∈ tail, p c = true) (first : ∀ c ∈ s.head?, p c = false) (last : ∀ c ∈ s.getLast?, p c = false) :
    stripWhile p (lead ++ (s ++ tail)) = s := by
  rw [stripWhile, List.dropWhile_append_of_pos before]
  cases s with
  | nil =>
    rw [List.nil_append, List.dropWhile_eq_nil_iff.mpr behind]
    rfl
  | cons c s =>
    rw [dropWhile_eq_self (s := c :: s ++ tail) first, dropRightWhile_append behind, dropRightWhile_eq_self last]

theorem exists_append_stripWhile (p : Char → Bool) (s : List Char) :
    ∃ lead tail, s = lead ++ (stripWhile p s ++ tail) ∧ ∀ c ∈ lead ++ tail, p c = true := by
  have front : s.takeWhile p ++ s.dropWhile p = s := List.takeWhile_append_dropWhile
  have back : stripWhile p s ++ ((s.dropWhile p).reverse.takeWhile p).reverse = s.dropWhile p := by
    rw [stripWhile, dropRightWhile, ← List.reverse_append, List.takeWhile_append_dropWhile, List.reverse_reverse]
  refine ⟨_, _, (back.symm ▸ front).symm, List.forall_mem_append.mpr ⟨fun c member => List.mem_takeWhile_imp member, ?_⟩⟩
  exact fun c member => List.mem_takeWhile_imp (List.mem_reverse.mp member)

section Strip

variable {p : Char → Bool} {s : List Char} {c : Char}

theorem mem_stripWhile_iff (kept : p c = false) : c ∈ stripWhile p s ↔ c ∈ s := by
  obtain ⟨lead, tail, whole, dropped⟩ := exists_append_stripWhile p s
  have apart : c ∉ lead ++ tail := fun member => absurd (dropped c member) (by rw [kept]; decide)
  rw [List.mem_append, not_or] at apart
  constructor
  · intro member
    rw [whole]
    exact List.mem_append_right lead (List.mem_append_left tail member)
  · intro member
    rw [whole, List.mem_append, List.mem_append, or_iff_right apart.1, or_iff_left apart.2] at member
    exact member

theorem not_of_head?_stripWhile (first : (stripWhile p s).head? = some c) : p c = false := by
  obtain ⟨rest, begins⟩ := List.head?_eq_some_iff.mp first
  obtain ⟨tail, whole⟩ := prefix_dropRightWhile p (s.dropWhile p)
  have stops := List.head?_dropWhile_not p s
  rw [stripWhile] at begins
  rw [← whole, begins, List.cons_append, List.head?_cons] at stops
  simpa using stops

theorem not_of_getLast?_stripWhile (last : (stripWhile p s).getLast? = some c) : p c = false :=
  of_getLast?_dropRightWhile last

end Strip

theorem trimEnd_eq_self {s : List Char} (last : ∀ c ∈ s.getLast?, isBlank c = false) : trimEnd s = s :=
  dropRightWhile_eq_self last

theorem trim_of_solid_ends {s : List Char} (first : ∀ c ∈ s.head?, isBlank c = false)
    (last : ∀ c ∈ s.getLast?, isBlank c = false) : trim s = s := by
  rw [trim, stripWhile, dropWhile_eq_self first]
  exact dropRightWhile_eq_self last

theorem trim_eq_self {s : List Char} (solid : ∀ c ∈ s, isBlank c = false) : trim s = s :=
  trim_of_solid_ends (fun c first => solid c (List.mem_of_mem_head? first)) fun c last =>
    solid c (List.mem_of_getLast? last)

theorem trim_of_blank {s : List Char} (blank : ∀ c ∈ s, isBlank c = true) : trim s = [] := by
  rw [trim, stripWhile, List.dropWhile_eq_nil_iff.mpr blank]
  rfl

/-- A line without the carriage return at its end, if it has one. -/
def withoutReturn (line : List Char) : List Char :=
  if line.getLast? = some '\r' then line.dropLast else line

theorem withoutReturn_eq_self {line : List Char} (noReturn : line.getLast? ≠ some '\r') :
    withoutReturn line = line := if_neg noReturn

theorem lines_feed (s : List Char) : lines ('\n' :: s) = [] :: lines s := by simp [lines]

/-- A character that neither breaks a line nor is the first half of a break belongs to the line behind it. -/
theorem lines_cons_of_not_break {c : Char} {s : List Char} (noFeed : c ≠ '\n')
    (noBreak : ¬(c = '\r' ∧ s.head? = some '\n')) : lines (c :: s) = pushHead c (lines s) := by
  rw [lines]
  · exact noFeed
  · rintro rest rfl rfl
    exact noBreak ⟨rfl, rfl⟩

theorem lines_append_feed {line : List Char} (noFeed : '\n' ∉ line) (rest : List Char) :
    lines (line ++ '\n' :: rest) = withoutReturn line :: lines rest := by
  induction line with
  | nil => simpa [withoutReturn] using lines_feed rest
  | cons c line ih =>
    obtain ⟨notFeed, noFeed⟩ := not_or.mp (mt List.mem_cons.mpr noFeed)
    cases line with
    | nil =>
      by_cases isReturn : c = '\r'
      · subst c
        simp [lines, withoutReturn]
      · rw [List.singleton_append, lines_cons_of_not_break (Ne.symm notFeed) (by simp [isReturn]), lines_feed]
        simp [pushHead, withoutReturn, isReturn]
    | cons d line =>
      have notBreak : ¬(c = '\r' ∧ ((d :: line) ++ '\n' :: rest).head? = some '\n') := by
        rintro ⟨_, first⟩
        exact noFeed (by simp_all)
      rw [List.cons_append, lines_cons_of_not_break (Ne.symm notFeed) notBreak, ih noFeed]
      by_cases ends : (d :: line).getLast? = some '\r'
      · simp [pushHead, withoutReturn, ends]
      · simp [pushHead, withoutReturn, ends]

/-- What holds no line feed is one line, unless it is empty. -/
theorem lines_of_not_feed_mem {line : List Char} (noFeed : '\n' ∉ line) (nonempty : line ≠ []) : lines line = [line] := by
  induction line with
  | nil => exact absurd rfl nonempty
  | cons c line ih =>
    obtain ⟨notFeed, noFeed⟩ := not_or.mp (mt List.mem_cons.mpr noFeed)
    have notBreak : ¬(c = '\r' ∧ line.head? = some '\n') := fun ⟨_, first⟩ => noFeed (List.mem_of_mem_head? first)
    rw [lines_cons_of_not_break (Ne.symm notFeed) notBreak]
    cases line with
    | nil => rfl
    | cons d line => rw [ih noFeed (List.cons_ne_nil d line), pushHead]

/-- Lines written one under another, each with a line feed at its end, are the lines of the text but for a carriage
return at the end. -/
theorem lines_flatMap_feed {rows : List (List Char)} (noFeed : ∀ line ∈ rows, '\n' ∉ line) :
    lines (rows.flatMap (· ++ ['\n'])) = rows.map withoutReturn := by
  induction rows with
  | nil => rfl
  | cons line rest ih =>
    obtain ⟨here, below⟩ := List.forall_mem_cons.mp noFeed
    rw [List.flatMap_cons, List.append_assoc, List.singleton_append, lines_append_feed here, ih below, List.map_cons]

theorem not_feed_mem_of_mem_lines {s line : List Char} (member : line ∈ lines s) : '\n' ∉ line := by
  fun_induction lines s generalizing line with
  | case1 => exact absurd member List.not_mem_nil
  | case2 s ih =>
    rcases List.mem_cons.mp member with rfl | later
    · exact List.not_mem_nil
    · exact ih later
  | case3 s ih =>
    rcases List.mem_cons.mp member with rfl | later
    · exact List.not_mem_nil
    · exact ih later
  | case4 c s notFeed _ ih =>
    cases rest : lines s with
    | nil =>
      rw [rest, pushHead, List.mem_singleton] at member
      simpa [member] using Ne.symm notFeed
    | cons first others =>
      rw [rest] at ih
      rw [rest, pushHead] at member
      rcases List.mem_cons.mp member with rfl | later
      · have inFirst := ih List.mem_cons_self
        simpa [inFirst] using Ne.symm notFeed
      · exact ih (List.mem_cons_of_mem first later)

theorem pushHead_append (c : Char) {rows : List (List Char)} (nonempty : rows ≠ []) (more : List (List Char)) :
    pushHead c (rows ++ more) = pushHead c rows ++ more := by
  cases rows with
  | nil => exact absurd rfl nonempty
  | cons line rest => rfl

theorem pushHead_ne_nil (c : Char) (rows : List (List Char)) : pushHead c rows ≠ [] := by
  cases rows <;> exact List.cons_ne_nil _ _

theorem lines_ne_nil {s : List Char} (nonempty : s ≠ []) : lines s ≠ [] := by
  fun_cases lines s with
  | case1 => exact absurd rfl nonempty
  | case2 | case3 => exact List.cons_ne_nil _ _
  | case4 c s => exact pushHead_ne_nil c (lines s)

/-- Whether a text ends in a line break shows at the end of it. -/
theorem atLineStart_of_append (lead : List Char) {s : List Char} (complete : atLineStart (lead ++ s).getLast? = true) :
    atLineStart s.getLast? = true := by
  cases s with
  | nil => rfl
  | cons c s => simpa [List.getLast?_append, List.getLast?_cons] using complete

/-- A text that begins where a line does adds its lines to those before it. -/
theorem lines_append {s : List Char} (complete : atLineStart s.getLast? = true) (more : List Char) :
    lines (s ++ more) = lines s ++ lines more := by
  fun_induction lines s with
  | case1 => rfl
  | case2 s ih =>
    have later := ih (atLineStart_of_append ['\n'] complete)
    rw [List.cons_append, lines_feed, later, List.cons_append]
  | case3 s ih =>
    have later := ih (atLineStart_of_append ['\r', '\n'] complete)
    rw [List.cons_append, List.cons_append, lines, later, List.cons_append]
  | case4 c s notFeed notBreak ih =>
    cases s with
    | nil => exact absurd (by simpa [atLineStart] using complete) notFeed
    | cons d s =>
      have later := ih (atLineStart_of_append [c] complete)
      have behind : ¬(c = '\r' ∧ (d :: s ++ more).head? = some '\n') := by
        rintro ⟨rfl, feed⟩
        obtain rfl : d = '\n' := Option.some.inj feed
        exact notBreak s rfl rfl
      rw [List.cons_append, lines_cons_of_not_break notFeed behind, later,
        pushHead_append c (lines_ne_nil (List.cons_ne_nil d s))]

/-- What stands behind a character other than a carriage return keeps it from being stripped. -/
theorem withoutReturn_append_cons {c : Char} (noReturn : c ≠ '\r') (lead more : List Char) :
    withoutReturn (lead ++ c :: more) = lead ++ c :: withoutReturn more := by
  cases more with
  | nil => simp [withoutReturn, noReturn]
  | cons d more =>
    have last : (lead ++ c :: d :: more).getLast? = (d :: more).getLast? := by simp [List.getLast?_cons]
    unfold withoutReturn
    rw [last]
    split
    · simp
    · rfl

theorem trimStart_append {lead : List Char} (blank : ∀ c ∈ lead, isBlank c = true) (s : List Char) :
    trimStart (lead ++ s) = trimStart s := List.dropWhile_append_of_pos blank

theorem trimStart_cons {c : Char} (solid : isBlank c = false) (s : List Char) : trimStart (c :: s) = c :: s :=
  List.dropWhile_cons_of_neg (by simp [solid])

/-- The first word of a text that begins with white space and goes on with something else. -/
theorem head?_words {gap s : List Char} (blank : ∀ c ∈ gap, isBlank c = true) {first : Char}
    (begins : s.head? = some first) (solid : isBlank first = false) :
    (words (gap ++ s)).head? = some (s.takeWhile fun c => !isBlank c) := by
  induction gap with
  | nil =>
    have leads : (split isBlank s).head? = some (s.takeWhile fun c => !isBlank c) := head?_split s
    obtain ⟨pieces, halves⟩ := List.head?_eq_some_iff.mp leads
    obtain ⟨s, rfl⟩ := List.head?_eq_some_iff.mp begins
    have nonempty : (!((first :: s).takeWhile fun c => !isBlank c).isEmpty) = true := by simp [solid]
    rw [List.nil_append, words, fields, halves, List.filter_cons, if_pos nonempty, List.head?_cons]
  | cons c gap ih =>
    obtain ⟨here, blank⟩ := List.forall_mem_cons.mp blank
    have skipped : words (c :: (gap ++ s)) = words (gap ++ s) := by
      rw [words, fields, split, if_pos here]
      rfl
    rw [List.cons_append, skipped, ih blank]

section Joined

variable {row : List Char} {rows after : List (List Char)}

/-- What stands at the start of a line of joined lines begins with one of them. -/
theorem exists_row_of_intercalate_eq_append {lead tail : List Char} (noFeed : ∀ line ∈ rows, '\n' ∉ line)
    (split : ['\n'].intercalate rows = lead ++ tail) (start : atLineStart lead.getLast? = true)
    (nonempty : tail ≠ []) :
    ∃ before row after, rows = before ++ row :: after ∧ tail = ['\n'].intercalate (row :: after) := by
  induction rows generalizing lead with
  | nil =>
    obtain ⟨rfl, rfl⟩ := List.append_eq_nil_iff.mp split.symm
    exact absurd rfl nonempty
  | cons row rest ih =>
    obtain ⟨here, below⟩ := List.forall_mem_cons.mp noFeed
    -- What ends in a line feed does not end inside the first row.
    have inside : ∀ more, row = lead ++ more → lead = [] := by
      rintro more rfl
      by_contra nonempty
      have feed : lead.getLast nonempty = '\n' := by
        simpa [atLineStart, List.getLast?_eq_some_getLast nonempty] using start
      exact here (List.mem_append_left more (feed ▸ List.getLast_mem nonempty))
    cases rest with
    | nil =>
      rw [List.intercalate_singleton] at split
      cases inside tail split
      exact ⟨[], row, [], rfl, by rw [List.intercalate_singleton, split, List.nil_append]⟩
    | cons next rest =>
      rw [List.intercalate_cons_cons, List.append_assoc, List.singleton_append] at split
      rcases List.append_eq_append_iff.mp split with ⟨behind, rfl, others⟩ | ⟨more, ahead, others⟩
      · cases behind with
        | nil =>
          have empty : row = [] := by simpa using inside [] (by simp)
          subst empty
          exact ⟨[], [], next :: rest, rfl, by rw [List.intercalate_cons_cons]; simpa using others.symm⟩
        | cons c behind =>
          obtain ⟨rfl, below'⟩ := List.cons.inj others
          have startLater : atLineStart behind.getLast? = true :=
            atLineStart_of_append (row ++ ['\n']) (by simpa using start)
          obtain ⟨before, found, after, lines, begins⟩ := ih below below' startLater
          exact ⟨row :: before, found, after, by rw [lines, List.cons_append], begins⟩
      · cases inside more ahead
        refine ⟨[], row, next :: rest, rfl, ?_⟩
        rw [List.intercalate_cons_cons, List.append_assoc, List.singleton_append, ahead, others, List.nil_append]

/-- What joined lines begin with is in the first of them as long as no line feed is in it. -/
theorem exists_rest_of_intercalate_eq_append {lead rest : List Char} (noFeed : '\n' ∉ lead)
    (split : ['\n'].intercalate (row :: after) = lead ++ rest) :
    ∃ row', row = lead ++ row' ∧ rest = ['\n'].intercalate (row' :: after) := by
  induction lead generalizing row with
  | nil => exact ⟨row, rfl, split.symm⟩
  | cons c lead ih =>
    obtain ⟨notFeed, inLead⟩ := List.ne_and_not_mem_of_not_mem_cons noFeed
    cases row with
    | nil => cases after <;> simp_all
    | cons d row =>
      rw [List.intercalate_cons_cons_left, List.cons_append] at split
      obtain ⟨rfl, behind⟩ := List.cons.inj split
      obtain ⟨row', rfl, others⟩ := ih inLead behind
      exact ⟨row', rfl, others⟩

/-- The first character of joined lines that is not blank is the first one of some line. -/
theorem exists_row_of_head_trimStart {c : Char} (head : (trimStart (['\n'].intercalate rows)).head? = some c) :
    ∃ row ∈ rows, (trimStart row).head? = some c := by
  induction rows with
  | nil => simp [trimStart] at head
  | cons row rest ih =>
    cases rest with
    | nil => exact ⟨row, List.mem_cons_self, by simpa using head⟩
    | cons next rest =>
      rw [List.intercalate_cons_cons, List.append_assoc, List.singleton_append] at head
      by_cases blank : trimStart row = []
      · rw [trimStart_append (List.dropWhile_eq_nil_iff.mp blank)] at head
        obtain ⟨found, member, first⟩ := ih head
        exact ⟨found, List.mem_cons_of_mem row member, first⟩
      · have stays : trimStart (row ++ '\n' :: ['\n'].intercalate (next :: rest)) =
            trimStart row ++ '\n' :: ['\n'].intercalate (next :: rest) := by
          rw [trimStart, List.dropWhile_append, if_neg (by simpa [trimStart] using blank)]
          rfl
        refine ⟨row, List.mem_cons_self, ?_⟩
        rw [stays, List.head?_append, List.head?_eq_some_head blank, Option.some_or] at head
        rwa [List.head?_eq_some_head blank]

end Joined

end Plumbline.Text
