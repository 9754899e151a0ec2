import Plumbline.Json.Reader
import Plumbline.Toml.Basic
import Plumbline.Toml.Moment

namespace Plumbline.Toml

def isGap (c : Char) : Bool := c == ' ' || c == '\t'

def skipGap (s : List Char) : List Char := s.dropWhile isGap

/-- Characters that may stand in a comment or string: no control characters but the tab. -/
def isPlain (c : Char) : Bool := c == '\t' || (32 ≤ c.toNat && c.toNat != 127)

/-- A line feed, with or without a carriage return before it. -/
def newLine? : List Char → Option (List Char)
  | '\n' :: s => some s
  | '\r' :: '\n' :: s => some s
  | _ => none

/-- The rest of a line after its content: a gap, a comment, and the end of the line or of the text. -/
def endLine? (s : List Char) : Option (List Char) :=
  let s := match skipGap s with
    | '#' :: s => s.dropWhile isPlain
    | s => s
  if s.isEmpty then some [] else newLine? s

/-- Skips gaps, comments and line breaks. -/
def skipLines : Nat → List Char → List Char
  | 0, s => s
  | fuel + 1, s => match skipGap s with
    | [] => []
    | s => match endLine? s with
      | some rest => skipLines fuel rest
      | none => s

/-- The character of an escape with hexadecimal digits, if there is one of that number. -/
def scalar? (digits : List Char) : Option Char := do
  let values ← digits.mapM Json.hexValue?
  let n := values.foldl (fun n v => n * 16 + v) 0
  if n < 0xD800 || (0xDFFF < n && n < 0x110000) then some (Char.ofNat n) else none

def exactly? (n : Nat) (s : List Char) : Option (List Char × List Char) :=
  if (s.take n).length = n then some (s.take n, s.drop n) else none

/-- Reads what follows a backslash. -/
def readEscape : List Char → Option (Char × List Char)
  | 'u' :: s => do
    let (digits, rest) ← exactly? 4 s
    return (← scalar? digits, rest)
  | 'U' :: s => do
    let (digits, rest) ← exactly? 8 s
    return (← scalar? digits, rest)
  | '/' :: _ => none
  | c :: s => (Json.escapeOf? c).map (·, s)
  | [] => none

/-- Reads a string on one line in which backslashes escape. `read` holds the characters so far, last first. -/
def readBasic : Nat → List Char → List Char → Option (String × List Char)
  | 0, _, _ => none
  | _ + 1, _, [] => none
  | fuel + 1, read, c :: s =>
    if c = '\x22' then some (String.ofList read.reverse, s)
    else if c = '\\' then match readEscape s with
      | some (e, rest) => readBasic fuel (e :: read) rest
      | none => none
    else if isPlain c then readBasic fuel (c :: read) s
    else none

/-- Reads a string on one line without escapes. -/
def readLiteral (s : List Char) : Option (String × List Char) :=
  let text := s.takeWhile fun c => isPlain c && c != '\x27'
  match s.drop text.length with
  | '\x27' :: rest => some (String.ofList text, rest)
  | _ => none

/-- Skips a backslash's line end and all white space after it. -/
def skipFold : Nat → List Char → List Char
  | 0, s => s
  | fuel + 1, s => match newLine? (skipGap s) with
    | some rest => skipFold fuel rest
    | none => skipGap s

/-- Closing quotes of a text on several lines: three, before which up to two more belong to the text. -/
def closing? (quote : Char) (s : List Char) : Option (List Char × List Char) :=
  let quotes := (s.take 5).takeWhile (· == quote)
  if quotes.length < 3 then none else some (quotes.drop 3, s.drop quotes.length)

/-- Reads a string over several lines in which backslashes escape. -/
def readLongBasic : Nat → List Char → List Char → Option (String × List Char)
  | 0, _, _ => none
  | _ + 1, _, [] => none
  | fuel + 1, read, c :: s =>
    match closing? '\x22' (c :: s) with
    | some (extra, rest) => some (String.ofList (extra ++ read).reverse, rest)
    | none =>
      if c = '\\' then match newLine? (skipGap s) with
        | some rest => readLongBasic fuel read (skipFold fuel rest)
        | none => match readEscape s with
          | some (e, rest) => readLongBasic fuel (e :: read) rest
          | none => none
      else match newLine? (c :: s) with
        | some rest => readLongBasic fuel ('\n' :: read) rest
        | none => if isPlain c then readLongBasic fuel (c :: read) s else none

/-- Reads a string over several lines without escapes. -/
def readLongLiteral : Nat → List Char → List Char → Option (String × List Char)
  | 0, _, _ => none
  | _ + 1, _, [] => none
  | fuel + 1, read, c :: s =>
    match closing? '\x27' (c :: s) with
    | some (extra, rest) => some (String.ofList (extra ++ read).reverse, rest)
    | none => match newLine? (c :: s) with
      | some rest => readLongLiteral fuel ('\n' :: read) rest
      | none => if isPlain c then readLongLiteral fuel (c :: read) s else none

/-- A line break right after the opening quotes does not belong to the text. -/
def dropFirstBreak (s : List Char) : List Char := (newLine? s).getD s

def readText : List Char → Option (String × List Char)
  | '\x22' :: '\x22' :: '\x22' :: s => readLongBasic (s.length + 1) [] (dropFirstBreak s)
  | '\x22' :: s => readBasic (s.length + 1) [] s
  | '\x27' :: '\x27' :: '\x27' :: s => readLongLiteral (s.length + 1) [] (dropFirstBreak s)
  | '\x27' :: s => readLiteral s
  | _ => none

def isBare (c : Char) : Bool := c.isAlphanum || c == '_' || c == '-'

/-- Reads one step of a key. -/
def readStep : List Char → Option (String × List Char)
  | '\x22' :: s => readBasic (s.length + 1) [] s
  | '\x27' :: s => readLiteral s
  | s => match s.takeWhile isBare with
    | [] => none
    | key => some (String.ofList key, s.dropWhile isBare)

/-- Reads a key with its dots, and the gap after it. -/
def readKey : Nat → List Char → Option (List String × List Char)
  | 0, _ => none
  | fuel + 1, s => do
    let (key, s) ← readStep (skipGap s)
    match skipGap s with
    | '.' :: s => (readKey fuel s).map fun (path, rest) => (key :: path, rest)
    | s => return ([key], s)

/-- Values may nest this deep, and keys have fewer steps. -/
def maxDepth : Nat := 80

/-- Reads a key that is not too long. -/
def readPath (s : List Char) : Option (List String × List Char) :=
  (readKey s.length s).filter fun (path, _) => path.length < maxDepth

/-- Digits of a base in which single underscores may stand between digits. -/
def readDigits (isDigit : Char → Bool) : List Char → Option (List Char × List Char)
  | [] => none
  | c :: s =>
    if !isDigit c then none
    else match s with
      | '_' :: s' => (readDigits isDigit s').map fun (digits, rest) => (c :: digits, rest)
      | s => match readDigits isDigit s with
        | some (digits, rest) => some (c :: digits, rest)
        | none => if (s.head?.map isDigit).getD false then none else some ([c], s)

def digitsValue (base : Nat) (digits : List Char) : Nat :=
  digits.foldl (fun n c => n * base + (Json.hexValue? c).getD 0) 0

/-- A whole number of 64 bits with sign. -/
def fits (n : Int) : Bool := -(Int.pow 2 63) ≤ n && n < Int.pow 2 63

/-- The sign of a number and the text after it. -/
def readSign : List Char → Bool × List Char
  | '-' :: s => (true, s)
  | '+' :: s => (false, s)
  | s => (false, s)

/-- Reads the decimal whole part of a number, which begins with nought only when it is nought. -/
def readWhole (s : List Char) : Option (List Char × List Char) :=
  match s with
  | '0' :: s => some (['0'], s)
  | s => readDigits Char.isDigit s

def readFraction : List Char → Option (List Char) × List Char
  | '.' :: s => match readDigits Char.isDigit s with
    | some (digits, rest) => (some digits, rest)
    | none => (none, '.' :: s)
  | s => (none, s)

/-- Reads an exponent with its sign; it may begin with nought. -/
def readPower : List Char → Option (Bool × List Char) × List Char
  | c :: s =>
    if c = 'e' || c = 'E' then
      let (down, digits) := readSign s
      match readDigits Char.isDigit digits with
      | some (power, rest) => (some (down, power), rest)
      | none => (none, c :: s)
    else (none, c :: s)
  | [] => (none, [])

/-- The double nearest to a decimal, infinite when it is too large. -/
def nearest (digits : Nat) (power : Int) : Float :=
  let size : Int := (toString digits).length + power
  if digits = 0 || size < -400 then 0
  else if 400 < size then 1 / 0
  else if power < 0 then OfScientific.ofScientific digits true power.natAbs
  else OfScientific.ofScientific digits false power.natAbs

/-- The float of a decimal, which must not be too large for a double. -/
def floatOf? (minus : Bool) (whole : List Char) (fraction : Option (List Char)) (power : Option (Bool × List Char)) :
    Option Toml :=
  let digits := digitsValue 10 (whole ++ fraction.getD [])
  let scale : Int := match power with
    | none => 0
    | some (down, n) => if down then -(digitsValue 10 n : Int) else digitsValue 10 n
  let x := nearest digits (scale - (fraction.getD []).length)
  if minus then some (.float (-x)) else if x.isInf then none else some (.float x)

/-- Reads a number of another base after its mark. -/
def readBased (base : Nat) (isDigit : Char → Bool) (s : List Char) : Option (Toml × List Char) := do
  let (digits, rest) ← readDigits isDigit s
  if fits (digitsValue base digits) then return (.integer (digitsValue base digits), rest) else none

def readNumber (s : List Char) : Option (Toml × List Char) :=
  match s with
  | '0' :: 'x' :: s => readBased 16 (fun c => (Json.hexValue? c).isSome) s
  | '0' :: 'o' :: s => readBased 8 (fun c => '0' ≤ c && c ≤ '7') s
  | '0' :: 'b' :: s => readBased 2 (fun c => c == '0' || c == '1') s
  | s => do
    let (minus, s) := readSign s
    match s with
    | 'i' :: 'n' :: 'f' :: s => return (.float (if minus then -1 / 0 else 1 / 0), s)
    | 'n' :: 'a' :: 'n' :: s => return (.float (0 / 0), s)
    | s =>
      let (whole, s) ← readWhole s
      let (fraction, s) := readFraction s
      let (power, s) := readPower s
      if fraction.isSome || power.isSome then (floatOf? minus whole fraction power).map (·, s)
      else
        let n : Int := if minus then -(digitsValue 10 whole : Int) else digitsValue 10 whole
        if fits n then return (.integer n, s) else none

mutual
/-- Reads a value. `depth` counts the arrays and inline tables around it. -/
def readValue : Nat → Nat → List Char → Option (Toml × List Char)
  | 0, _, _ => none
  | fuel + 1, depth, s =>
    match s with
    | 't' :: 'r' :: 'u' :: 'e' :: s => some (.bool true, s)
    | 'f' :: 'a' :: 'l' :: 's' :: 'e' :: s => some (.bool false, s)
    | '[' :: s =>
      if depth + 1 < maxDepth then (readItems fuel (depth + 1) s).map fun (items, rest) => (.array items, rest)
      else none
    | '\x7b' :: s =>
      if depth + 1 < maxDepth then match skipGap s with
        | '\x7d' :: rest => some (.table [], rest)
        | s => (readPairs fuel (depth + 1) [] s).map fun (entries, rest) => (.table (finish entries), rest)
      else none
    | c :: _ =>
      if c = '\x22' || c = '\x27' then (readText s).map fun (text, rest) => (.string text, rest)
      else match readMoment s with
        | some rest => some (.moment, rest)
        | none => readNumber s
    | [] => none

/-- Reads the items of an array up to and with the closing bracket. -/
def readItems : Nat → Nat → List Char → Option (List Toml × List Char)
  | 0, _, _ => none
  | fuel + 1, depth, s =>
    match skipLines s.length s with
    | ']' :: rest => some ([], rest)
    | s => do
      let (v, s) ← readValue fuel depth s
      match skipLines s.length s with
      | ',' :: s => (readItems fuel depth s).map fun (items, rest) => (v :: items, rest)
      | ']' :: rest => return ([v], rest)
      | _ => none

/-- Reads the pairs of an inline table that has at least one, up to and with the closing brace. -/
def readPairs : Nat → Nat → Entries → List Char → Option (Entries × List Char)
  | 0, _, _, _ => none
  | fuel + 1, depth, entries, s => do
    let (path, s) ← readPath s
    let '=' :: s := s | none
    let (v, s) ← readValue fuel depth (skipGap s)
    let entries ← addDotted .header path v entries
    match skipGap s with
    | ',' :: s => readPairs fuel depth entries s
    | '\x7d' :: rest => return (entries, rest)
    | _ => none
end

/-- The last step of a path and the steps before it. -/
def lastStep? : List String → Option (List String × String)
  | [] => none
  | [key] => some ([], key)
  | key :: path => (lastStep? path).map fun (steps, last) => (key :: steps, last)

/-- Reads lines into a document. `header` leads to the table that pairs belong to. -/
def readLines : Nat → List String → Entries → List Char → Option Entries
  | 0, _, entries, _ => some entries
  | fuel + 1, header, entries, s =>
    match skipGap s with
    | [] => some entries
    | '[' :: '[' :: s => do
      let (path, s) ← readPath s
      let ']' :: ']' :: s := s | none
      let (steps, key) ← lastStep? path
      let entries ← within (openRepeated key) steps .header entries
      readLines fuel path entries (← endLine? s)
    | '[' :: s => do
      let (path, s) ← readPath s
      let ']' :: s := s | none
      let (steps, key) ← lastStep? path
      let entries ← within (openTable key) steps .header entries
      readLines fuel path entries (← endLine? s)
    | s => match endLine? s with
      | some rest => readLines fuel header entries rest
      | none => do
        let (path, s) ← readPath s
        let '=' :: s := s | none
        let (v, s) ← readValue (2 * s.length + 2) 0 (skipGap s)
        let entries ← within (fun origin inner => addDotted origin path v inner) header .header entries
        readLines fuel header entries (← endLine? s)

/-- Reads a document; a byte order mark in front of it does not count. -/
def parse (text : String) : Option Toml :=
  let s := match text.toList with
    | '\ufeff' :: s => s
    | s => s
  (readLines (s.length + 1) [] [] s).map fun entries => .table (finish entries)

end Plumbline.Toml
