namespace Plumbline.Text

/-- What follows `lead` in a text that begins with it. -/
def after? : List Char → List Char → Option (List Char)
  | [], s => some s
  | _ :: _, [] => none
  | a :: lead, b :: s => if a = b then after? lead s else none

def startsWith (lead s : List Char) : Bool := (after? lead s).isSome

def endsWith (tail s : List Char) : Bool := startsWith tail.reverse s.reverse

/-- Whether `needle` occurs somewhere in the text. -/
def contains (needle : List Char) : List Char → Bool
  | [] => needle.isEmpty
  | c :: s => startsWith needle (c :: s) || contains needle s

/-- The parts before and after the first occurrence of `needle`. -/
def cut? (needle : List Char) : List Char → Option (List Char × List Char)
  | [] => if needle.isEmpty then some ([], []) else none
  | c :: s => match after? needle (c :: s) with
    | some rest => some ([], rest)
    | none => (cut? needle s).map fun (before, rest) => (c :: before, rest)

/-- The pieces between the separators; a text without one is a single piece. -/
def split (isSeparator : Char → Bool) : List Char → List (List Char)
  | [] => [[]]
  | c :: s => if isSeparator c then [] :: split isSeparator s
    else match split isSeparator s with
      | [] => [[c]]
      | piece :: pieces => (c :: piece) :: pieces

/-- The non-empty pieces between separators. -/
def fields (isSeparator : Char → Bool) (s : List Char) : List (List Char) :=
  (split isSeparator s).filter (!·.isEmpty)

def dropRightWhile (p : Char → Bool) (s : List Char) : List Char := (s.reverse.dropWhile p).reverse

/-- Strips the characters satisfying `p` from both ends. -/
def stripWhile (p : Char → Bool) (s : List Char) : List Char := dropRightWhile p (s.dropWhile p)

/-- The longest lead of characters satisfying `p`, and the rest, when the lead is not empty. -/
def some? (p : Char → Bool) (s : List Char) : Option (List Char × List Char) :=
  match s.takeWhile p with
  | [] => none
  | c :: lead => some (c :: lead, s.dropWhile p)

/-- A rule that reads something off the front of a text. It sees the character before the text, if there is one, and
returns what it read and the text left over. -/
abbrev Reader (α : Type) := Option Char → List Char → Option (α × List Char)

/-- The last of the characters that stand in `s` before its tail `rest`. -/
def lastBefore (s rest : List Char) : Option Char := (s.take (s.length - rest.length)).getLast?

/-- Everything `reader` finds from left to right, where a find begins after the end of the one before. A find that
takes no character is passed over. -/
def findAll {α : Type} (reader : Reader α) (before : Option Char) : List Char → List α
  | [] => []
  | c :: s => match reader before (c :: s) with
    | none => findAll reader (some c) s
    | some (found, rest) =>
      if rest.length < s.length + 1 then found :: findAll reader (lastBefore (c :: s) rest) rest
      else findAll reader (some c) s
termination_by s => s.length

/-- The first place where `reader` succeeds: the text before it, what was read, and the text after. -/
def findFirst {α : Type} (reader : Reader α) (before : Option Char) : List Char → Option (List Char × α × List Char)
  | [] => (reader before []).map fun (found, rest) => ([], found, rest)
  | c :: s => match reader before (c :: s) with
    | some (found, rest) => some ([], found, rest)
    | none => (findFirst reader (some c) s).map fun (skipped, found, rest) => (c :: skipped, found, rest)

/-- Whether the place before a text is the beginning of a line. -/
def atLineStart (before : Option Char) : Bool := before.all (· == '\n')

theorem after?_append (lead s : List Char) : after? lead (lead ++ s) = some s := by
  induction lead with
  | nil => rfl
  | cons c lead ih => simpa [after?] using ih

theorem after?_eq_some_iff {lead s rest : List Char} : after? lead s = some rest ↔ s = lead ++ rest := by
  induction lead generalizing s with
  | nil => simp [after?, eq_comm]
  | cons a lead ih =>
    cases s with
    | nil => simp [after?]
    | cons b s => by_cases same : a = b <;> simp [after?, same, ih, eq_comm]

end Plumbline.Text
