import Mathlib.Data.Option.Basic
import Plumbline.Proofs.Glob
import Plumbline.Proofs.Text.Search
import Plumbline.Site

namespace Plumbline

namespace Glob

section Nested

/-- Choices of one branch around a token. -/
def nest : Nat → Token → Token
  | 0, token => token
  | depth + 1, token => nest depth (.choice [[token]])

/-- Braces around one letter. -/
def nestedText (depth : Nat) : List Char := List.replicate depth '\x7b' ++ 'a' :: List.replicate depth '\x7d'

theorem read_openings (depth fuel count : Nat) (s : List Char) :
    read (fuel + depth) (List.replicate count ⟨[], []⟩) ⟨[], []⟩ (List.replicate depth '\x7b' ++ s) =
      read fuel (List.replicate (count + depth) ⟨[], []⟩) ⟨[], []⟩ s := by
  induction depth generalizing count with
  | zero => rfl
  | succ depth ih =>
    have opened := ih (count + 1)
    rw [Nat.add_right_comm, List.replicate_succ] at opened
    rw [List.replicate_succ, List.cons_append, ← Nat.add_assoc fuel, ← Nat.add_assoc count]
    simpa [read] using opened

theorem read_closings (depth : Nat) (token : Token) :
    read (depth + 1) (List.replicate depth ⟨[], []⟩) ⟨[], [token]⟩ (List.replicate depth '\x7d') =
      .ok [nest depth token] := by
  induction depth generalizing token with
  | zero => rfl
  | succ depth ih =>
    rw [List.replicate_succ, List.replicate_succ]
    simpa [read, Level.push, Level.close, Level.next, nest] using ih (.choice [[token]])

theorem parse_nestedText (depth : Nat) : parse (nestedText depth) = .ok [nest depth (.literal 'a')] := by
  have fuel : (nestedText depth).length + 1 = depth + 1 + 1 + depth := by simp [nestedText]; omega
  calc parse (nestedText depth)
      = read (depth + 1 + 1 + depth) [] ⟨[], []⟩ (nestedText depth) := by rw [parse, fuel]
    _ = read (depth + 1 + 1) (List.replicate (0 + depth) ⟨[], []⟩) ⟨[], []⟩ ('a' :: List.replicate depth '\x7d') :=
        read_openings depth (depth + 1 + 1) 0 _
    _ = read (depth + 1) (List.replicate depth ⟨[], []⟩) ⟨[], [.literal 'a']⟩ (List.replicate depth '\x7d') := by
        rw [Nat.zero_add]
        rfl
    _ = .ok [nest depth (.literal 'a')] := read_closings depth (.literal 'a')

theorem branchDepth_single (token : Token) : branchDepth [[token]] = levelOf token.itemCount + token.depth := by
  have read : branchDepth [[token]] = max (levelOf token.itemCount + max token.depth 0) 0 := rfl
  rw [read, Nat.max_zero, Nat.max_zero]

theorem depth_nest (depth : Nat) {token : Token} (solid : token.isVoid = false) (single : token.itemCount = 1) :
    (nest depth token).depth = token.depth + depth := by
  induction depth generalizing token with
  | zero => rfl
  | succ depth ih =>
    have solid' : (Token.choice [[token]]).isVoid = false := by simp [Token.isVoid, areVoid, isVoidRun, solid]
    have single' : (Token.choice [[token]]).itemCount = 1 := by simp [Token.itemCount, areVoid, isVoidRun, solid]
    have deeper : (Token.choice [[token]]).depth = token.depth + 1 := by
      simp [Token.depth, areVoid, isVoidRun, branchDepth_single, levelOf, solid, single, Nat.add_comm]
    rw [nest, ih solid' single', deeper]
    omega

theorem isRefused_nest {depth : Nat} (many : maxDepth ≤ depth) : isRefused [nest depth (.literal 'a')] = true := by
  have letter : (Token.literal 'a').itemCount = 1 := by decide +kernel
  have deep : runDepth [nest depth (.literal 'a')] = depth := by
    rw [runDepth, runDepth, depth_nest depth rfl letter, Token.depth, Nat.zero_add, Nat.max_zero]
  have tooDeep : isTooDeep [nest depth (.literal 'a')] = true := by
    rw [isTooDeep, deep]
    exact decide_eq_true (by omega)
  rw [isRefused, tooDeep, Bool.true_or]

end Nested

end Glob

section Failure

variable {ε α β : Type}

/-- What a computation breaks off with, if it does. -/
def failure? : Except ε α → Option ε
  | .ok _ => none
  | .error e => some e

theorem failure?_eq_none_iff {x : Except ε α} : failure? x = none ↔ ∃ a, x = .ok a := by
  cases x <;> simp [failure?]

theorem failure?_eq_some_iff {x : Except ε α} {e : ε} : failure? x = some e ↔ x = .error e := by
  cases x <;> simp [failure?]

/-- Where the second step breaks off alike whatever the first one gives, that is what stops the two unless the first
does. -/
theorem failure?_bind {x : Except ε α} {f : α → Except ε β} {later : Option ε} (alike : ∀ a, failure? (f a) = later) :
    failure? (x >>= f) = (failure? x).or later := by
  cases x with
  | ok a => exact alike a
  | error e => rfl

theorem failure?_bind_of_total {x : Except ε α} {f : α → Except ε β} (total : ∀ a, failure? (f a) = none) :
    failure? (x >>= f) = failure? x := by
  rw [failure?_bind total, Option.or_none]

theorem failure?_mapM (f : α → Except ε β) (xs : List α) :
    failure? (xs.mapM f) = xs.findSome? fun a => failure? (f a) := by
  induction xs with
  | nil => rfl
  | cons a xs ih =>
    rw [List.mapM_cons, List.findSome?_cons, ← ih]
    have rest (b : β) : failure? (do return b :: (← xs.mapM f)) = failure? (xs.mapM f) :=
      failure?_bind_of_total fun _ => rfl
    cases f a with
    | ok b => exact rest b
    | error e => rfl

end Failure

/-- What a pattern breaks off with when it is compiled. -/
def PathPattern.fault? (pattern : String) : Option CheckError := failure? (parse pattern)

namespace PathPattern

/-- Every component of a pattern is a glob. -/
def IsGlob (pattern : String) : Prop := ∀ part ∈ components pattern, ∃ tokens, Glob.parse part.toList = .ok tokens

/-- No component of a pattern nests too deep or grows too large. -/
def IsAccepted (pattern : String) : Prop :=
  ∀ part ∈ components pattern, ∀ tokens, Glob.parse part.toList = .ok tokens → Glob.isRefused tokens = false

/-- What a component of a pattern breaks off with. -/
inductive Breaks (pattern part : String) : CheckError → Prop
  | notGlob {fault : Glob.Fault} (bad : Glob.parse part.toList = .error fault) :
      Breaks pattern part (.invalidPattern pattern part fault)
  | refused {tokens : List Glob.Token} (parsed : Glob.parse part.toList = .ok tokens)
      (refused : Glob.isRefused tokens = true) : Breaks pattern part (.deepPattern tokens)

/-- What the compilation of one component breaks off with. -/
def partFault? (pattern part : String) : Option CheckError :=
  match Glob.parse part.toList with
  | .ok tokens => if Glob.isRefused tokens then some (.deepPattern tokens) else none
  | .error fault => some (.invalidPattern pattern part fault)

theorem partFault?_eq_some_iff {pattern part : String} {e : CheckError} :
    partFault? pattern part = some e ↔ Breaks pattern part e := by
  constructor
  · intro faulty
    rw [partFault?] at faulty
    split at faulty
    · rename_i tokens parsed
      split at faulty
      · rename_i refused
        cases faulty
        exact .refused parsed refused
      · cases faulty
    · rename_i fault bad
      cases faulty
      exact .notGlob bad
  · intro breaks
    cases breaks with
    | notGlob bad => rw [partFault?, bad]
    | refused parsed refused => rw [partFault?, parsed]; exact if_pos refused

theorem partFault?_eq_none_iff {pattern part : String} :
    partFault? pattern part = none ↔
      (∃ tokens, Glob.parse part.toList = .ok tokens) ∧
        ∀ tokens, Glob.parse part.toList = .ok tokens → Glob.isRefused tokens = false := by
  rw [partFault?]
  cases Glob.parse part.toList <;> simp

theorem fault?_eq (pattern : String) : fault? pattern = (components pattern).findSome? (partFault? pattern) :=
  calc fault? pattern
      = failure? ((components pattern).mapM _) := failure?_bind_of_total fun _ => rfl
    _ = (components pattern).findSome? (partFault? pattern) := by
        rw [failure?_mapM]
        refine congrArg (List.findSome? · _) (funext fun part => ?_)
        rw [partFault?]
        cases Glob.parse part.toList with
        | error fault => rfl
        | ok tokens => dsimp only; split <;> rfl

theorem fault?_eq_none_iff {pattern : String} : fault? pattern = none ↔ IsGlob pattern ∧ IsAccepted pattern := by
  simp only [fault?_eq, List.findSome?_eq_none_iff, partFault?_eq_none_iff, IsGlob, IsAccepted, forall_and]

theorem exists_breaks_of_fault? {pattern : String} {e : CheckError} (faulty : fault? pattern = some e) :
    ∃ part ∈ components pattern, Breaks pattern part e := by
  rw [fault?_eq] at faulty
  obtain ⟨part, member, breaks⟩ := List.exists_of_findSome?_eq_some faulty
  exact ⟨part, member, partFault?_eq_some_iff.mp breaks⟩

theorem components_of_slashless {s : List Char} (slashless : ∀ c ∈ s, (c == '/') = false) (bare : stripDots s = s)
    (nonempty : s ≠ []) : components (String.ofList s) = [String.ofList s] := by
  rw [components, String.toList_ofList, bare, Text.fields, Text.split_of_none slashless]
  simp [nonempty]

section Plain

/-- A pattern without any sign of globs. -/
def IsPlain (pattern : String) : Prop := ∀ c ∈ pattern.toList, Glob.isPlain c = true

instance (pattern : String) : Decidable (IsPlain pattern) :=
  decidable_of_iff (pattern.toList.all Glob.isPlain = true) List.all_eq_true

theorem IsPlain.append {first second : String} (here : IsPlain first) (there : IsPlain second) :
    IsPlain (first ++ second) := by
  rw [IsPlain, String.toList_append]
  exact List.forall_mem_append.mpr ⟨here, there⟩

theorem stripDots_suffix (s : List Char) : stripDots s <:+ s := by
  fun_induction stripDots s with
  | case1 s ih => exact ih.trans ((List.suffix_cons _ _).trans (List.suffix_cons _ _))
  | case2 s _ => exact List.suffix_refl s

/-- The components of a pattern are made of its characters. -/
theorem IsPlain.of_mem_components {pattern part : String} (plain : IsPlain pattern)
    (member : part ∈ components pattern) : IsPlain part := by
  intro c inside
  obtain ⟨piece, field, rfl⟩ := List.mem_map.mp member
  rw [String.toList_ofList] at inside
  exact plain c ((stripDots_suffix _).subset (Text.of_mem_split (List.mem_of_mem_filter field) inside).1)

/-- Whether a component of a pattern is longer than one that stands for itself may be. -/
def isOverlong (pattern : String) : Bool := (components pattern).any fun part => Glob.maxLength < part.utf8ByteSize

/-- A pattern without signs breaks off for its length only. -/
theorem IsPlain.fault?_eq_none_iff {pattern : String} (plain : IsPlain pattern) :
    fault? pattern = none ↔ isOverlong pattern = false := by
  rw [fault?_eq, List.findSome?_eq_none_iff, isOverlong, List.any_eq_false]
  refine forall₂_congr fun part member => ?_
  have parsed : Glob.parse part.toList = .ok (part.toList.map .literal) :=
    Glob.parse_of_plain (List.all_eq_true.mpr (plain.of_mem_components member))
  have refused : Glob.isRefused (part.toList.map .literal) = true ↔ Glob.maxLength < part.utf8ByteSize := by
    rw [Glob.isRefused_literals, String.ofList_toList]
  rw [partFault?, parsed, decide_eq_true_iff, ← refused]
  simp

/-- Dots in front of a folder are stripped off a pattern for a file in it, and so is a folder that is only a dot. -/
theorem stripDots_beside (folder : List Char) {file : List Char} (bare : stripDots file = file) :
    stripDots (folder ++ '/' :: file) =
      if stripDots folder = ['.'] then file else stripDots folder ++ '/' :: file := by
  fun_induction stripDots folder with
  | case1 folder ih => exact ih
  | case2 folder undotted =>
    split
    · rename_i dot
      rw [dot]
      exact bare
    · rename_i named
      refine stripDots.eq_2 _ fun rest dotted => ?_
      cases folder with
      | nil => cases dotted
      | cons c folder =>
        obtain ⟨first, behind⟩ := List.cons.inj dotted
        cases folder with
        | nil => exact named (by rw [first])
        | cons d folder =>
          obtain ⟨second, _⟩ := List.cons.inj behind
          exact undotted folder (by rw [first, second])

theorem components_beside {folder file : String} (alone : components file = [file])
    (bare : stripDots file.toList = file.toList) : components (folder ++ "/" ++ file) =
      if stripDots folder.toList = ['.'] then [file] else components folder ++ [file] := by
  have whole : (folder ++ "/" ++ file).toList = folder.toList ++ '/' :: file.toList := by simp
  have last : (Text.fields (· == '/') file.toList).map String.ofList = [file] := by rw [← bare]; exact alone
  rw [components, whole, stripDots_beside _ bare]
  split
  · exact last
  · rw [Text.fields, Text.split_append _ _ rfl, List.filter_append, List.map_append]
    exact congrArg (components folder ++ ·) last

/-- A file with a short name makes no pattern overlong. -/
theorem isOverlong_beside {folder file : String} (alone : components file = [file])
    (bare : stripDots file.toList = file.toList) (short : file.utf8ByteSize ≤ Glob.maxLength) :
    isOverlong (folder ++ "/" ++ file) = isOverlong folder := by
  rw [isOverlong, components_beside alone bare]
  split
  · rename_i dot
    have here : components folder = ["."] := by
      rw [components, dot]
      rfl
    rw [isOverlong, here, List.any_cons, List.any_cons, decide_eq_false (Nat.not_lt.mpr short)]
    decide
  · rw [List.any_append, List.any_cons, decide_eq_false (Nat.not_lt.mpr short), List.any_nil, Bool.or_false,
      Bool.or_false, isOverlong]

end Plain

/-- A pattern of braces around one letter. -/
def nested (depth : Nat) : String := String.ofList (Glob.nestedText depth)

theorem components_nested (depth : Nat) : components (nested depth) = [nested depth] := by
  have slashless : ∀ c ∈ Glob.nestedText depth, (c == '/') = false := by
    intro c member
    simp only [Glob.nestedText, List.mem_append, List.mem_replicate, List.mem_cons] at member
    rcases member with ⟨_, rfl⟩ | rfl | ⟨_, rfl⟩ <;> rfl
  have bare : stripDots (Glob.nestedText depth) = Glob.nestedText depth := by cases depth <;> rfl
  exact components_of_slashless slashless bare (by simp [Glob.nestedText])

/-- Any number of braces around a letter is a glob. -/
theorem isGlob_nested (depth : Nat) : IsGlob (nested depth) := by
  intro part member
  rw [components_nested] at member
  rw [List.mem_singleton.mp member, nested, String.toList_ofList]
  exact ⟨_, Glob.parse_nestedText depth⟩

/-- Too many braces around a letter are refused. -/
theorem fault?_nested {depth : Nat} (many : Glob.maxDepth ≤ depth) :
    fault? (nested depth) = some (.deepPattern [Glob.nest depth (.literal 'a')]) := by
  have breaks : Breaks (nested depth) (nested depth) (.deepPattern [Glob.nest depth (.literal 'a')]) :=
    .refused (by rw [nested, String.toList_ofList, Glob.parse_nestedText]) (Glob.isRefused_nest many)
  rw [fault?_eq, components_nested, List.findSome?_cons, partFault?_eq_some_iff.mpr breaks]

end PathPattern

end Plumbline
