namespace Plumbline.Glob

/-- What one item of a glob stands for. -/
inductive Token where
  | literal (c : Char)
  /-- Any one byte. -/
  | any
  /-- Any run of bytes. -/
  | many
  /-- One byte of a set, or one outside it. -/
  | oneOf (negated : Bool) (ranges : List (Char × Char))
  /-- Any of several globs. -/
  | choice (branches : List (List Token))

/-- Why a text is no glob. -/
inductive Fault where
  | unclosedClass
  | reversedRange (first last : Char)
  | unopenedChoice
  | unclosedChoice
  | danglingEscape

def Fault.message : Fault → String
  | .unclosedClass => "unclosed character class; missing ']'"
  | .reversedRange first last =>
    "invalid range; '" ++ String.singleton first ++ "' > '" ++ String.singleton last ++ "'"
  | .unopenedChoice => "unopened alternate group; missing '\x7b' (maybe escape '\x7d' with '[\x7d]'?)"
  | .unclosedChoice => "unclosed alternate group; missing '\x7d' (maybe escape '\x7b' with '[\x7b]'?)"
  | .danglingEscape => "dangling '\\'"

/-- Reads a set of characters after its opening bracket and negation. `ranges` holds what was read, last first, and
`open` whether a dash waits for the end of its range. A bracket or dash in first place stands for itself. -/
def readClass : Nat → Bool → Bool → List (Char × Char) → List Char → Except Fault (List (Char × Char) × List Char)
  | 0, _, _, _, _ => .error .unclosedClass
  | _ + 1, _, _, _, [] => .error .unclosedClass
  | fuel + 1, isFirst, isOpen, ranges, c :: s =>
    if c = ']' && !isFirst then .ok ((if isOpen then ('-', '-') :: ranges else ranges).reverse, s)
    else if c = '-' && !isFirst && !isOpen then readClass fuel false true ranges s
    else match isOpen, ranges with
      | true, (first, _) :: rest =>
        if c < first then .error (.reversedRange first c) else readClass fuel false false ((first, c) :: rest) s
      | _, _ => readClass fuel false false ((c, c) :: ranges) s

/-- The branches of one open choice: the finished ones, last first, and the tokens of the current one, last first. -/
structure Level where
  branches : List (List Token)
  tokens : List Token

def Level.push (level : Level) (token : Token) : Level := { level with tokens := token :: level.tokens }

def Level.next (level : Level) : Level := ⟨level.tokens.reverse :: level.branches, []⟩

def Level.close (level : Level) : Token := .choice level.next.branches.reverse

/-- What follows two stars that end a branch. -/
def afterStars? : List Char → Option (List Char)
  | '*' :: '*' :: c :: s => if c = ',' || c = '\x7d' then some (c :: s) else none
  | _ => none

/-- Reads a glob. `outer` holds the levels around the current one. A comma separates branches inside a choice only. Two
stars that end a branch right behind an escaped comma or brace take its place, and ask for a slash. -/
def read : Nat → List Level → Level → List Char → Except Fault (List Token)
  | 0, _, level, _ => .ok level.tokens.reverse
  | _ + 1, outer, level, [] => if outer.isEmpty then .ok level.tokens.reverse else .error .unclosedChoice
  | fuel + 1, outer, level, c :: s =>
    if c = '?' then read fuel outer (level.push .any) s
    else if c = '*' then read fuel outer (level.push .many) s
    else if c = '\x7b' then read fuel (level :: outer) ⟨[], []⟩ s
    else if c = '\x7d' then match outer with
      | [] => .error .unopenedChoice
      | around :: outer => read fuel outer (around.push level.close) s
    else if c = ',' then
      if outer.isEmpty then read fuel outer (level.push (.literal ',')) s else read fuel outer level.next s
    else if c = '\\' then match s with
      | [] => .error .danglingEscape
      | e :: s =>
        match if outer.isEmpty || e ≠ ',' && e ≠ '\x7b' then none else afterStars? s with
        | some rest => read fuel outer ((level.push (.literal '/')).push .many) rest
        | none => read fuel outer (level.push (.literal e)) s
    else if c = '[' then
      let (negated, s) := match s with
        | '!' :: s => (true, s)
        | '^' :: s => (true, s)
        | s => (false, s)
      match readClass (s.length + 1) true false [] s with
      | .ok (ranges, rest) => read fuel outer (level.push (.oneOf negated ranges)) rest
      | .error fault => .error fault
    else read fuel outer (level.push (.literal c)) s

/-- Reads the glob for one component of a path. -/
def parse (s : List Char) : Except Fault (List Token) := read (s.length + 1) [] ⟨[], []⟩ s

end Plumbline.Glob
