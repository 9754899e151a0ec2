import Mathlib.Data.List.TakeDrop
import Plumbline.Proofs.Text.Infix
import Plumbline.Source.Calls

namespace Plumbline.Source

open Text

section Parentheses

variable {depth : Nat} {s : List Char}

/-- Whether some parenthesis stays open all through a text, where `depth` are open before it. -/
def StaysOpen (depth : Nat) (s : List Char) : Prop := ∀ lead, lead <+: s → lead.count ')' < lead.count '(' + depth

/-- The number of open parentheses behind a character. -/
def depthAfter (depth : Nat) (c : Char) : Nat := if c = '(' then depth + 1 else if c = ')' then depth - 1 else depth

/-- A first character may be counted among the open parentheses instead. -/
theorem counts_cons (c : Char) (s : List Char) (opened : 0 < depth) : ∃ k, (c :: s).count ')' = s.count ')' + k ∧
    (c :: s).count '(' + depth = s.count '(' + depthAfter depth c + k := by
  rw [List.count_cons, List.count_cons, depthAfter]
  by_cases opening : c = '('
  · subst opening
    exact ⟨0, by simp, by simp; omega⟩
  · by_cases closing : c = ')'
    · subst closing
      exact ⟨1, by simp, by simp; omega⟩
    · exact ⟨0, by simp [closing], by simp [opening, closing]⟩

theorem staysOpen_nil (opened : 0 < depth) : StaysOpen depth [] := by
  intro lead before
  rw [List.prefix_nil.mp before]
  simpa using opened

theorem StaysOpen.cons {c : Char} (opened : 0 < depth) (later : StaysOpen (depthAfter depth c) s) :
    StaysOpen depth (c :: s) := by
  intro lead before
  rcases List.prefix_cons_iff.mp before with rfl | ⟨lead, rfl, within⟩
  · simpa using opened
  · obtain ⟨k, closings, openings⟩ := counts_cons c lead opened
    have counts := later lead within
    omega

/-- A text split at the parenthesis that closes all open ones, with nothing behind when none does. -/
structure Closes (depth : Nat) (s inside : List Char) (rest : Option (List Char)) : Prop where
  whole : s = inside ++ rest.getD []
  staysOpen : StaysOpen depth inside
  closed : ∀ behind ∈ rest, behind.head? = some ')' ∧ inside.count '(' + depth = inside.count ')' + 1

theorem closes_untilClosed (s : List Char) (opened : 0 < depth) :
    Closes depth s (untilClosed depth s).1 (untilClosed depth s).2 := by
  induction s generalizing depth with
  | nil => exact ⟨rfl, staysOpen_nil opened, fun _ none => by cases none⟩
  | cons c s ih =>
    rw [untilClosed]
    split
    · rename_i last
      obtain ⟨rfl, single⟩ : c = ')' ∧ depth ≤ 1 := by simpa using last
      refine ⟨rfl, staysOpen_nil opened, fun behind here => ?_⟩
      cases here
      exact ⟨rfl, by simp; omega⟩
    · rename_i further
      have lasts : c = ')' → 1 < depth := by simpa using further
      have deeper : 0 < depthAfter depth c := by
        rw [depthAfter]
        split_ifs with opening closing
        · exact Nat.succ_pos depth
        · exact Nat.sub_pos_of_lt (lasts closing)
        · exact opened
      obtain ⟨whole, staysOpen, closed⟩ := ih deeper
      refine ⟨congrArg (c :: ·) whole, staysOpen.cons opened, fun behind here => ?_⟩
      obtain ⟨head, counts⟩ := closed behind here
      obtain ⟨k, closings, openings⟩ := counts_cons c (untilClosed (depthAfter depth c) s).1 opened
      refine ⟨head, ?_⟩
      rw [depthAfter] at counts openings closings
      dsimp only
      omega

end Parentheses

/-- A part of a text, from one place up to another. -/
structure Span where
  start : Nat
  stop : Nat

namespace Span

def cut (span : Span) (s : List Char) : List Char := (s.drop span.start).take (span.stop - span.start)

def shift (n : Nat) (span : Span) : Span := ⟨n + span.start, n + span.stop⟩

/-- The span of what stands between two parts of a text. -/
def between (lead inside : List Char) : Span := ⟨lead.length, lead.length + inside.length⟩

/-- A part that a call stands right before and no lead of which closes more parentheses than it opens. -/
structure IsArguments (span : Span) (s : List Char) : Prop where
  within : span.start ≤ span.stop ∧ span.stop ≤ s.length
  introduced : ∃ i, runCall <+: s.drop i ∧ i + runCall.length = span.start
  noneTooMany : ∀ lead, lead <+: span.cut s → lead.count ')' ≤ lead.count '('

/-- Whether the parenthesis behind a part closes the call that stands before it. -/
def IsClosed (span : Span) (s : List Char) : Prop :=
  s[span.stop]? = some ')' ∧ (span.cut s).count ')' = (span.cut s).count '('

/-- Whether the call that begins at a place stands right before a part or within it. -/
def Covers (span : Span) (i : Nat) : Prop :=
  i + runCall.length = span.start ∨ span.start ≤ i ∧ i + runCall.length ≤ span.stop

section Shift

variable {lead s : List Char} {span : Span}

theorem cut_between (lead inside rest : List Char) : (between lead inside).cut (lead ++ (inside ++ rest)) = inside := by
  rw [cut, between, List.drop_left, Nat.add_sub_cancel_left, List.take_left]

theorem cut_shift (lead s : List Char) (span : Span) : (span.shift lead.length).cut (lead ++ s) = span.cut s := by
  rw [cut, shift, List.drop_length_add_append, Nat.add_sub_add_left, cut]

theorem IsArguments.shift (arguments : span.IsArguments s) (lead : List Char) :
    (span.shift lead.length).IsArguments (lead ++ s) := by
  obtain ⟨⟨order, inText⟩, ⟨i, begins, start⟩, noneTooMany⟩ := arguments
  refine ⟨⟨Nat.add_le_add_left order _, ?_⟩, ⟨lead.length + i, ?_, ?_⟩, ?_⟩
  · rw [List.length_append]
    exact Nat.add_le_add_left inText _
  · rwa [List.drop_length_add_append]
  · rw [Nat.add_assoc, start, Span.shift]
  · rwa [cut_shift]

theorem IsClosed.shift (closed : span.IsClosed s) (lead : List Char) : (span.shift lead.length).IsClosed (lead ++ s) := by
  obtain ⟨closing, counts⟩ := closed
  refine ⟨?_, by rwa [cut_shift]⟩
  rwa [Span.shift, List.getElem?_append_right (Nat.le_add_right _ _), Nat.add_sub_cancel_left]

theorem Covers.shift {i : Nat} (covers : span.Covers i) (n : Nat) : (span.shift n).Covers (n + i) := by
  rcases covers with before | ⟨after, inside⟩
  · exact .inl (by rw [Nat.add_assoc, before, Span.shift])
  · exact .inr ⟨Nat.add_le_add_left after n, by rw [Nat.add_assoc]; exact Nat.add_le_add_left inside n⟩

end Shift

end Span

/-- The arguments of all calls in a text. Only those of the last call may be left open. -/
structure CallSpans (s : List Char) (spans : List Span) : Prop where
  ordered : spans.Pairwise fun a b => a.stop < b.start
  arguments : ∀ span ∈ spans, span.IsArguments s
  closed : ∀ span ∈ spans, span.IsClosed s ∨ span.stop = s.length ∧ spans.getLast? = some span
  covered : ∀ i, runCall <+: s.drop i → ∃ span ∈ spans, span.Covers i

theorem callSpans_nil {s : List Char} (none : ¬ runCall <:+: s) : CallSpans s [] where
  ordered := .nil
  arguments := List.forall_mem_nil _
  closed := List.forall_mem_nil _
  covered i begins := absurd (begins.isInfix.trans (List.drop_suffix i s).isInfix) none

section First

variable {before behind inside rest : List Char} {spans : List Span}

/-- A call begins where the first one does or behind its parenthesis. -/
theorem eq_or_behind_of_first (first : ∀ i < before.length, ¬ runCall <+: (before ++ (runCall ++ behind)).drop i) {i : Nat}
    (begins : runCall <+: (before ++ (runCall ++ behind)).drop i) :
    i = before.length ∨ ∃ j, i = (before ++ runCall).length + j ∧ runCall <+: behind.drop j := by
  obtain ⟨k, rfl⟩ := Nat.exists_eq_add_of_le (Nat.le_of_not_lt fun early => first i early begins)
  by_cases inName : k < runCall.length
  · have here : runCall <+: (before ++ (runCall ++ behind)).drop before.length := by
      rw [List.drop_left]
      exact List.prefix_append _ _
    have letter := getElem?_of_prefix_drop begins (k := 0) (by decide)
    rw [Nat.add_zero, getElem?_of_prefix_drop here inName] at letter
    have once : ∀ k < runCall.length, runCall[k]? = runCall[0]? → k = 0 := by decide
    exact .inl (by rw [once k inName letter, Nat.add_zero])
  · obtain ⟨j, rfl⟩ := Nat.exists_eq_add_of_le (Nat.le_of_not_lt inName)
    rw [List.drop_length_add_append, List.drop_length_add_append] at begins
    exact .inr ⟨j, by rw [List.length_append, Nat.add_assoc], begins⟩

/-- A call does not begin in the arguments of another one and end behind these. -/
theorem within_or_behind_of_ends (ends : rest.head? = some ')' ∨ rest = []) {j : Nat}
    (begins : runCall <+: (inside ++ rest).drop j) : j + runCall.length ≤ inside.length ∨ inside.length ≤ j := by
  cases rest with
  | nil =>
    have fits := begins.length_le
    rw [List.append_nil, List.length_drop] at fits
    have letters : 0 < runCall.length := by decide
    omega
  | cons c rest =>
    obtain rfl : c = ')' := Option.some.inj (ends.resolve_right (List.cons_ne_nil c rest))
    exact (le_or_lt_of_prefix_drop begins (by decide)).imp_right Nat.le_of_lt

theorem isArguments_first (staysOpen : StaysOpen 1 inside) :
    (Span.between (before ++ runCall) inside).IsArguments (before ++ runCall ++ (inside ++ rest)) where
  within := by
    simp only [Span.between, List.length_append]
    omega
  introduced := by
    refine ⟨before.length, ?_, by rw [Span.between, List.length_append]⟩
    rw [List.append_assoc, List.drop_left]
    exact List.prefix_append _ _
  noneTooMany := by
    rw [Span.cut_between]
    exact fun lead within => Nat.le_of_lt_succ (staysOpen lead within)

/-- The calls of a text are its first one and those behind the parenthesis that closes it, if there is one. -/
theorem CallSpans.cons (first : ∀ i < before.length, ¬ runCall <+: (before ++ (runCall ++ (inside ++ rest))).drop i)
    (staysOpen : StaysOpen 1 inside)
    (ends : rest.head? = some ')' ∧ inside.count ')' = inside.count '(' ∨ rest = [] ∧ spans = [])
    (later : CallSpans rest spans) :
    CallSpans (before ++ (runCall ++ (inside ++ rest)))
      (.between (before ++ runCall) inside :: spans.map (.shift (before ++ runCall ++ inside).length)) := by
  have stop : (Span.between (before ++ runCall) inside).stop = (before ++ runCall ++ inside).length :=
    List.length_append.symm
  have regroup : before ++ (runCall ++ (inside ++ rest)) = before ++ runCall ++ inside ++ rest := by
    simp only [List.append_assoc]
  constructor
  case ordered =>
    refine List.pairwise_cons.mpr ⟨List.forall_mem_map.mpr fun span member => ?_, ?_⟩
    · obtain ⟨i, _, start⟩ := (later.arguments span member).introduced
      have letters : 0 < runCall.length := by decide
      rw [stop]
      exact Nat.lt_add_of_pos_right (by omega)
    · exact List.pairwise_map.mpr (later.ordered.imp fun before => Nat.add_lt_add_left before _)
  case arguments =>
    refine List.forall_mem_cons.mpr ⟨?_, List.forall_mem_map.mpr fun span member => ?_⟩
    · rw [← List.append_assoc]
      exact isArguments_first staysOpen
    · rw [regroup]
      exact (later.arguments span member).shift _
  case closed =>
    refine List.forall_mem_cons.mpr ⟨?_, List.forall_mem_map.mpr fun span member => ?_⟩
    · rcases ends with ⟨head, counts⟩ | ⟨rfl, rfl⟩
      · refine .inl ⟨?_, ?_⟩
        · rw [stop, regroup, List.getElem?_append_right (Nat.le_refl _), Nat.sub_self, ← List.head?_eq_getElem?, head]
        · rwa [← List.append_assoc, Span.cut_between]
      · exact .inr ⟨by rw [stop, regroup, List.append_nil], rfl⟩
    · rw [regroup]
      refine (later.closed span member).imp (·.shift _) fun ⟨atEnd, last⟩ => ⟨?_, ?_⟩
      · exact (congrArg _ atEnd).trans List.length_append.symm
      · rw [List.getLast?_cons, List.getLast?_map, last]
        rfl
  case covered =>
    intro i begins
    rcases eq_or_behind_of_first first begins with rfl | ⟨j, rfl, behind⟩
    · exact ⟨_, List.mem_cons_self, .inl (by rw [Span.between, List.length_append])⟩
    · rcases within_or_behind_of_ends (ends.imp And.left And.left) behind with inFirst | past
      · refine ⟨_, List.mem_cons_self, .inr ⟨Nat.le_add_right _ _, ?_⟩⟩
        rw [Nat.add_assoc]
        exact Nat.add_le_add_left inFirst _
      · obtain ⟨k, rfl⟩ := Nat.exists_eq_add_of_le past
        rw [List.drop_length_add_append] at behind
        obtain ⟨span, member, covers⟩ := later.covered k behind
        refine ⟨_, List.mem_cons_of_mem _ (List.mem_map_of_mem member), ?_⟩
        rw [← Nat.add_assoc, ← List.length_append]
        exact covers.shift _

end First

section Steps

variable {fuel : Nat} {s : List Char}

/-- What is left of a text behind a call is shorter. -/
theorem length_lt_of_untilClosed {before behind rest : List Char} (cut : cut? runCall s = some (before, behind))
    (closed : (untilClosed 1 behind).2 = some rest) : rest.length < s.length := by
  have split := (cut?_eq_some_iff.mp cut).1
  have whole := (closes_untilClosed behind Nat.one_pos).whole
  rw [closed, Option.getD_some] at whole
  have letters : 0 < runCall.length := by decide
  rw [split, whole]
  simp only [List.length_append]
  omega

/-- More steps than characters make no difference. -/
theorem callsFrom_of_enough {fuel' : Nat} (enough : s.length < fuel) (enough' : s.length < fuel') :
    callsFrom fuel s = callsFrom fuel' s := by
  induction fuel generalizing s fuel' with
  | zero => exact absurd enough (Nat.not_lt_zero _)
  | succ fuel ih =>
    obtain ⟨fuel', rfl⟩ := Nat.exists_eq_add_of_lt (Nat.zero_lt_of_lt enough')
    rw [Nat.zero_add] at enough' ⊢
    rw [callsFrom, callsFrom]
    cases cut : cut? runCall s with
    | none => rfl
    | some parts =>
      obtain ⟨⟨inside, rest⟩, split⟩ : ∃ halves, untilClosed 1 parts.2 = halves := ⟨_, rfl⟩
      dsimp only
      rw [split]
      cases rest with
      | none => rfl
      | some rest =>
        have shorter := length_lt_of_untilClosed cut (congrArg Prod.snd split)
        exact congrArg (inside :: ·) (ih (by omega) (by omega))

/-- With a step for each character, the calls of a text are taken out up to the last one. -/
theorem exists_callSpans (enough : s.length < fuel) :
    ∃ spans, CallSpans s spans ∧ callsFrom fuel s = spans.map (·.cut s) := by
  induction fuel generalizing s with
  | zero => exact absurd enough (Nat.not_lt_zero _)
  | succ fuel ih =>
    rw [callsFrom]
    cases cut : cut? runCall s with
    | none => exact ⟨[], callSpans_nil (cut?_eq_none_iff.mp cut), rfl⟩
    | some parts =>
      obtain ⟨before, behind⟩ := parts
      have closes := closes_untilClosed behind Nat.one_pos
      obtain ⟨⟨inside, rest⟩, split⟩ : ∃ halves, untilClosed 1 behind = halves := ⟨_, rfl⟩
      rw [split] at closes
      obtain ⟨whole, staysOpen, closed⟩ := closes
      obtain ⟨rfl, first⟩ := cut?_eq_some_iff.mp cut
      dsimp only at whole staysOpen closed ⊢
      rw [split]
      cases rest with
      | none =>
        rw [Option.getD_none] at whole
        subst whole
        have only := CallSpans.cons first staysOpen (.inr ⟨rfl, rfl⟩) (callSpans_nil (by decide))
        refine ⟨_, only, ?_⟩
        rw [← List.append_assoc, List.map_cons, Span.cut_between]
        rfl
      | some rest =>
        have shorter := length_lt_of_untilClosed cut (congrArg Prod.snd split)
        rw [Option.getD_some] at whole
        subst whole
        obtain ⟨head, counts⟩ := closed rest rfl
        obtain ⟨spans, later, calls⟩ := ih (by omega : rest.length < fuel)
        refine ⟨_, .cons first staysOpen (.inl ⟨head, by omega⟩) later, ?_⟩
        have regroup : before ++ (runCall ++ (inside ++ rest)) = before ++ runCall ++ inside ++ rest := by
          simp only [List.append_assoc]
        rw [List.map_cons, List.map_map, ← List.append_assoc before, Span.cut_between, List.append_assoc before, regroup]
        refine congrArg (inside :: ·) (calls.trans (List.map_congr_left fun span _ => ?_))
        exact (Span.cut_shift _ _ span).symm

end Steps

/-- The calls of a text are taken out in as many steps as they need. What is taken out are parts of the text, one behind
the other, each of them the arguments of a call up to the parenthesis that closes it, or to the end of the text where
nothing does; and every call is one of these or stands within one. -/
theorem runCalls_eq_spans (text : String) :
    (∀ fuel, text.length < fuel → runCalls text = (callsFrom fuel text.toList).map String.ofList) ∧
    ∃ spans, CallSpans text.toList spans ∧ runCalls text = spans.map fun span => String.ofList (span.cut text.toList) := by
  have enough : text.toList.length < text.length + 1 := by
    rw [String.length_toList]
    exact Nat.lt_succ_self _
  refine ⟨fun fuel more => ?_, ?_⟩
  · rw [runCalls, callsFrom_of_enough enough (String.length_toList ▸ more)]
  · obtain ⟨spans, listed, calls⟩ := exists_callSpans enough
    refine ⟨spans, listed, ?_⟩
    rw [runCalls, calls, List.map_map]
    rfl

end Plumbline.Source
