import Plumbline.Proofs.Source.Brackets
import Plumbline.Proofs.Text.Class

namespace Plumbline.Source

open Text

section Values

/-- What stands in a string between its quotes: no brackets and no commas. -/
inductive IsQuoted (quote : Char) : List Char → Prop
  | nil : IsQuoted quote []
  | plain {c s} : c ≠ quote → c ≠ '\\' → isBracket c = false → c ≠ ',' → IsQuoted quote s → IsQuoted quote (c :: s)
  | escaped {c s} : isBracket c = false → c ≠ ',' → IsQuoted quote s → IsQuoted quote ('\\' :: c :: s)

def lambdaWord : List Char := "lambda".toList

/-- The text of one argument of a call. A comma stands in it in brackets only, or between the parameters of a lambda
expression, or in a remark. -/
inductive IsValue : List Char → Prop
  | nil : IsValue []
  | mark {c s} : isBracket c = false → isWord c = false → c ∉ [',', '#', '\x27', '\x22'] → IsValue s → IsValue (c :: s)
  | word {w s} : w.all isWord = true → w ≠ lambdaWord → (s.head?.all fun c => !isWord c) = true → IsValue s →
    IsValue (w ++ s)
  | group {opening closing inner s} : (opening, closing) ∈ bracketPairs → Bracketed inner → IsValue s →
    IsValue (opening :: (inner ++ closing :: s))
  | string {quote body s} : isQuote quote = true → IsQuoted quote body → IsValue s →
    IsValue (quote :: (body ++ quote :: s))
  | remark {text s} : Bracketed text → '\n' ∉ text → IsValue s → IsValue ('#' :: (text ++ '\n' :: s))
  | lambda {parameters s} : (parameters.head?.all fun c => !isWord c) = true → Bracketed parameters →
    ¬ Outside ':' parameters → IsValue s → IsValue (lambdaWord ++ (parameters ++ ':' :: s))

variable {s : List Char}

theorem isBracket_of_isWord {c : Char} (word : isWord c = true) : isBracket c = false := by
  have marks : ∀ pair ∈ bracketPairs, isWord pair.1 = false ∧ isWord pair.2 = false := by decide
  by_contra bracket
  obtain ⟨pair, member, same⟩ := List.any_eq_true.mp (Bool.of_not_eq_false bracket)
  obtain ⟨opening, closing⟩ := marks pair member
  rcases (Bool.or_eq_true _ _).mp same with same | same
  · exact Bool.false_ne_true (opening.symm.trans (eq_of_beq same ▸ word))
  · exact Bool.false_ne_true (closing.symm.trans (eq_of_beq same ▸ word))

theorem bracketed_of_isWord {w : List Char} (word : w.all isWord = true) : Bracketed w :=
  .of_plain fun c member => isBracket_of_isWord (List.all_eq_true.mp word c member)

theorem IsQuoted.bracketed {quote : Char} (quoted : IsQuoted quote s) : Bracketed s := by
  induction quoted with
  | nil => exact .nil
  | plain _ _ unbracketed _ _ ih => exact .plain unbracketed ih
  | escaped unbracketed _ _ ih => exact .plain (by decide) (.plain unbracketed ih)

theorem isBracket_of_isQuote {quote : Char} (isQuote : isQuote quote = true) : isBracket quote = false := by
  obtain rfl | rfl : quote = '\x27' ∨ quote = '\x22' := by simpa [Text.isQuote] using isQuote
  · decide
  · decide

theorem IsValue.bracketed (value : IsValue s) : Bracketed s := by
  induction value with
  | nil => exact .nil
  | mark unbracketed _ _ _ ih => exact .plain unbracketed ih
  | word word _ _ _ ih => exact (bracketed_of_isWord word).append ih
  | group pair inner _ ih => exact .group pair inner ih
  | string isQuote body _ ih =>
    have unbracketed := isBracket_of_isQuote isQuote
    exact .plain unbracketed (body.bracketed.append (.plain unbracketed ih))
  | remark text _ _ ih => exact .plain (by decide) (text.append (.plain (by decide) ih))
  | lambda _ parameters _ _ ih =>
    exact (bracketed_of_isWord (by decide)).append (parameters.append (.plain (by decide) ih))

theorem isValue_word {w : List Char} (word : w.all isWord = true) (named : w ≠ lambdaWord) : IsValue w := by
  simpa using IsValue.word word named rfl .nil

end Values

/-- What stands behind white space and remarks. -/
def behindGap (inRemark : Bool) : List Char → List Char
  | [] => []
  | c :: s =>
    if inRemark then behindGap (c != '\n') s
    else if isBlank c then behindGap false s
    else if c = '#' then behindGap true s
    else c :: s

theorem behindGap_suffix (inRemark : Bool) (s : List Char) : behindGap inRemark s <:+ s := by
  induction s generalizing inRemark with
  | nil => exact List.suffix_rfl
  | cons c s ih =>
    rw [behindGap]
    split_ifs
    · exact (ih _).trans (List.suffix_cons c s)
    · exact (ih _).trans (List.suffix_cons c s)
    · exact (ih _).trans (List.suffix_cons c s)
    · exact List.suffix_rfl

/-- One argument of a call, with the white space and the remarks around it. -/
structure Argument where
  text : List Char
  isValue : IsValue text
  stands : behindGap false text ≠ []

namespace Argument

/-- The parameter that an argument is given for by name. -/
def keyword? (argument : Argument) : Option (List Char) :=
  let s := behindGap false argument.text
  let name := s.takeWhile isWord
  match behindGap false (s.drop name.length) with
  | '=' :: '=' :: _ => none
  | '=' :: _ => some name
  | _ => none

/-- Whether an argument is given by its position: neither by name nor as a mapping. -/
def isPositional (argument : Argument) : Bool :=
  argument.keyword?.isNone && !startsWith "**".toList (behindGap false argument.text)

theorem keyword_infix {argument : Argument} {name : List Char} (named : argument.keyword? = some name) :
    name <:+: argument.text := by
  have lead : (behindGap false argument.text).takeWhile isWord <:+: argument.text :=
    (List.takeWhile_prefix _).isInfix.trans (behindGap_suffix false argument.text).isInfix
  rw [keyword?] at named
  split at named
  · cases named
  · exact Option.some.inj named ▸ lead
  · cases named

end Argument

def reverseCode : List Char := "reverse_code".toList

/-- A call to run code in a migration, with the text in front of it. -/
structure Call where
  lead : List Char
  arguments : List Argument
  /-- Whether a comma stands behind the last argument. -/
  trailing : Bool
  gap : List Char
  introduced : ¬ runCall <:+: lead
  isValue : IsValue gap
  isGap : behindGap false gap = []
  trails : trailing = true → arguments ≠ []

namespace Call

variable (call : Call)

def texts : List (List Char) := call.arguments.map Argument.text

/-- What stands between the parentheses of a call. -/
def inside : List Char := [','].intercalate call.texts ++ ((if call.trailing then [','] else []) ++ call.gap)

def text : List Char := call.lead ++ (runCall ++ (call.inside ++ [')']))

/-- Whether a call says how to undo it: by name, or by a second argument. -/
def reverses : Bool :=
  call.arguments.any (·.keyword? == some reverseCode) || decide (1 < (call.arguments.filter (·.isPositional)).length)

/-- A call that does not say how to undo it, but holds a comma outside its brackets or mentions the parameter that would
say so. The comma stands between two arguments, behind the last one, between the parameters of a lambda expression or in a
remark. -/
structure IsMisread : Prop where
  stuck : call.reverses = false
  looks : reverseCode <:+: call.inside ∨ 1 < call.arguments.length ∨ call.trailing = true ∨
    ∃ s, (s ∈ call.texts ∨ s = call.gap) ∧ Outside ',' s

theorem bracketed_texts : ∀ s ∈ call.texts, Bracketed s :=
  List.forall_mem_map.mpr fun argument _ => argument.isValue.bracketed

theorem bracketed_joined : Bracketed ([','].intercalate call.texts) :=
  .intercalate (.plain (by decide) .nil) call.bracketed_texts

theorem bracketed_inside : Bracketed call.inside := by
  refine call.bracketed_joined.append (Bracketed.append ?_ call.isValue.bracketed)
  split
  · exact .plain (by decide) .nil
  · exact .nil

theorem text_infix_joined {texts : List (List Char)} {s : List Char} (member : s ∈ texts) :
    s <:+: [','].intercalate texts := by
  induction texts with
  | nil => exact absurd member List.not_mem_nil
  | cons t rest ih =>
    cases rest with
    | nil => exact (List.mem_singleton.mp member).symm ▸ List.intercalate_singleton.symm ▸ List.infix_rfl
    | cons u rest =>
      rw [List.intercalate_cons_cons]
      rcases List.mem_cons.mp member with rfl | later
      · rw [List.append_assoc]
        exact (List.prefix_append _ _).isInfix
      · exact (ih later).trans (List.suffix_append _ _).isInfix

theorem text_infix_inside {s : List Char} (member : s ∈ call.texts) : s <:+: call.inside :=
  (text_infix_joined member).trans (List.prefix_append _ _).isInfix

theorem hasOuterComma_inside : hasOuterComma 0 call.inside = true ↔
    1 < call.arguments.length ∨ call.trailing = true ∨ ∃ s, (s ∈ call.texts ∨ s = call.gap) ∧ Outside ',' s := by
  have among : (call.texts.any (hasOuterComma 0)) = true ↔ ∃ s ∈ call.texts, Outside ',' s := by
    rw [List.any_eq_true]
    exact exists_congr fun s => and_congr_right fun member => hasOuterComma_iff (call.bracketed_texts s member)
  have behind : hasOuterComma 0 ((if call.trailing then [','] else []) ++ call.gap) = true ↔
      call.trailing = true ∨ Outside ',' call.gap := by
    rw [← hasOuterComma_iff call.isValue.bracketed]
    cases call.trailing with
    | false => simp
    | true => exact iff_of_true (by rw [if_pos rfl, List.singleton_append, hasOuterComma_plain (by decide)]; rfl) (.inl rfl)
  have count : call.texts.length = call.arguments.length := List.length_map _
  rw [inside, hasOuterComma_append call.bracketed_joined, hasOuterComma_intercalate call.bracketed_texts, count,
    Bool.or_eq_true, Bool.or_eq_true, decide_eq_true_iff, among, behind]
  constructor
  · rintro ((more | ⟨s, member, comma⟩) | trailing | comma)
    · exact .inl more
    · exact .inr (.inr ⟨s, .inl member, comma⟩)
    · exact .inr (.inl trailing)
    · exact .inr (.inr ⟨call.gap, .inr rfl, comma⟩)
  · rintro (more | trailing | ⟨s, member | rfl, comma⟩)
    · exact .inl (.inl more)
    · exact .inr (.inl trailing)
    · exact .inl (.inr ⟨s, member, comma⟩)
    · exact .inr (.inr comma)

/-- A call counts as one that can be undone when it says how, or is misread. -/
theorem isReversible_iff : isReversible (String.ofList call.inside) = true ↔ call.reverses = true ∨ call.IsMisread := by
  have chars : (String.ofList call.inside).toList = call.inside := String.toList_ofList
  rw [isReversible, chars, Bool.or_eq_true, contains_iff, hasOuterComma_inside]
  constructor
  · intro looks
    by_cases undone : call.reverses = true
    · exact .inl undone
    · exact .inr ⟨Bool.eq_false_iff.mpr undone, looks⟩
  · rintro (undone | misread)
    · rcases (Bool.or_eq_true _ _).mp undone with named | second
      · obtain ⟨argument, member, names⟩ := List.any_eq_true.mp named
        exact .inl ((Argument.keyword_infix (eq_of_beq names)).trans (call.text_infix_inside (List.mem_map_of_mem member)))
      · exact .inr (.inl (Nat.lt_of_lt_of_le (of_decide_eq_true second) (List.length_filter_le _ _)))
    · exact misread.looks

end Call

/-- A text with calls one behind the other, and nothing behind them that begins another one. -/
structure Script where
  calls : List Call
  tail : List Char
  ended : ¬ runCall <:+: tail

namespace Script

def text (script : Script) : String := String.ofList (script.calls.flatMap Call.text ++ script.tail)

end Script

section Reading

variable {fuel : Nat}

theorem callsFrom_of_none {s : List Char} (none : ¬ runCall <:+: s) : callsFrom fuel s = [] := by
  cases fuel with
  | zero => rfl
  | succ fuel => rw [callsFrom, cut?_eq_none_iff.mpr none]

theorem callsFrom_paren (s : List Char) : callsFrom fuel (')' :: s) = callsFrom fuel s := by
  cases fuel with
  | zero => rfl
  | succ fuel =>
    have skip : cut? runCall (')' :: s) = (cut? runCall s).map fun parts => (')' :: parts.1, parts.2) := rfl
    rw [callsFrom, callsFrom, skip]
    cases cut? runCall s <;> rfl

theorem callsFrom_call (call : Call) (rest : List Char) :
    callsFrom (fuel + 1) (call.text ++ rest) = call.inside :: callsFrom fuel rest := by
  have cut : cut? runCall (call.text ++ rest) = some (call.lead, call.inside ++ ')' :: rest) := by
    have split := cut?_of_not_infix (call.inside ++ ')' :: rest) (by decide : 'R' ∉ "unPython(".toList) call.introduced
    rw [Call.text, List.append_assoc, List.append_assoc, List.append_assoc]
    exact split
  rw [callsFrom, cut]
  dsimp only
  rw [untilClosed_of_bracketed call.bracketed_inside]
  exact congrArg (call.inside :: ·) (callsFrom_paren rest)

theorem callsFrom_flatMap {calls : List Call} {tail : List Char} (ended : ¬ runCall <:+: tail)
    (enough : calls.length ≤ fuel) : callsFrom fuel (calls.flatMap Call.text ++ tail) = calls.map Call.inside := by
  induction calls generalizing fuel with
  | nil => exact callsFrom_of_none ended
  | cons call calls ih =>
    obtain ⟨fuel, rfl⟩ := Nat.exists_eq_add_of_lt (Nat.lt_of_lt_of_le (Nat.succ_pos calls.length) enough)
    rw [Nat.zero_add] at enough ⊢
    rw [List.flatMap_cons, List.append_assoc, callsFrom_call, ih (Nat.le_of_succ_le_succ enough), List.map_cons]

theorem length_le_of_flatMap (calls : List Call) : calls.length ≤ (calls.flatMap Call.text).length := by
  induction calls with
  | nil => exact Nat.le_refl 0
  | cons call calls ih =>
    have some : 1 ≤ call.text.length := by
      simp only [Call.text, List.length_append, List.length_singleton]
      omega
    rw [List.flatMap_cons, List.length_append, List.length_cons, Nat.add_comm]
    exact Nat.add_le_add some ih

/-- The calls of a script are read back. -/
theorem runCalls_text (script : Script) :
    runCalls script.text = script.calls.map fun call => String.ofList call.inside := by
  have chars : script.text.toList = script.calls.flatMap Call.text ++ script.tail := String.toList_ofList
  have enough : script.calls.length ≤ script.text.length + 1 := by
    have counted := length_le_of_flatMap script.calls
    rw [← String.length_toList, chars, List.length_append]
    omega
  rw [runCalls, chars, callsFrom_flatMap script.ended enough, List.map_map]
  rfl

end Reading

end Plumbline.Source
