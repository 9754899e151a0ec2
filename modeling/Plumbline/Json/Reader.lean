import Plumbline.Json.Number

namespace Plumbline.Json

def isSpace (c : Char) : Bool := c == ' ' || c == '\n' || c == '\t' || c == '\r'

def skipSpace (s : List Char) : List Char := s.dropWhile isSpace

def hexValue? (c : Char) : Option Nat :=
  if '0' ≤ c && c ≤ '9' then some (c.toNat - '0'.toNat)
  else if 'a' ≤ c && c ≤ 'f' then some (c.toNat - 'a'.toNat + 10)
  else if 'A' ≤ c && c ≤ 'F' then some (c.toNat - 'A'.toNat + 10)
  else none

/-- The value of the four hexadecimal digits of an escape. -/
def hex4? : List Char → Option (Nat × List Char)
  | a :: b :: c :: d :: s => do
    return (((← hexValue? a) * 16 + (← hexValue? b)) * 256 + (← hexValue? c) * 16 + (← hexValue? d), s)
  | _ => none

/-- The character after a backslash that stands for another one. -/
def escapeOf? : Char → Option Char
  | '\x22' => some '\x22'
  | '\\' => some '\\'
  | '/' => some '/'
  | 'b' => some '\x08'
  | 'f' => some '\x0c'
  | 'n' => some '\n'
  | 'r' => some '\r'
  | 't' => some '\t'
  | _ => none

/-- One unit of a string: a character, or an escaped half of a surrogate pair that found no partner. -/
inductive Unit16 where
  | whole (c : Char)
  | half

/-- Reads what follows a backslash. A high half takes a low one that follows it; any other half stays alone. -/
def readEscape : List Char → Option (Unit16 × List Char)
  | 'u' :: s => do
    let (n, rest) ← hex4? s
    if 0xD800 ≤ n && n ≤ 0xDBFF then
      match rest with
      | '\\' :: 'u' :: rest' =>
        let (m, rest'') ← hex4? rest'
        if 0xDC00 ≤ m && m ≤ 0xDFFF then
          return (.whole (Char.ofNat (0x10000 + (n - 0xD800) * 0x400 + (m - 0xDC00))), rest'')
        else return (.half, rest)
      | _ => return (.half, rest)
    else if 0xDC00 ≤ n && n ≤ 0xDFFF then return (.half, rest)
    else return (.whole (Char.ofNat n), rest)
  | c :: s => (escapeOf? c).map fun e => (.whole e, s)
  | [] => none

/-- Reads a string whose opening quote is gone, up to and with its closing quote. The text is missing when it holds
half a surrogate pair. `read` holds the characters so far, last first. -/
def readString : Nat → List Char → Bool → List Char → Option (Option String × List Char)
  | 0, _, _, _ => none
  | _ + 1, _, _, [] => none
  | fuel + 1, read, complete, c :: s =>
    if c = '\x22' then some (if complete then some (String.ofList read.reverse) else none, s)
    else if c = '\\' then
      match readEscape s with
      | none => none
      | some (.whole e, rest) => readString fuel (e :: read) complete rest
      | some (.half, rest) => readString fuel read false rest
    else if c.toNat < 32 then none
    else readString fuel (c :: read) complete s

/-- Digits, of which there is at least one. -/
def readDigits (s : List Char) : Option (List Char × List Char) :=
  match s.takeWhile Char.isDigit with
  | [] => none
  | digits => some (digits, s.dropWhile Char.isDigit)

def readExponent (s : List Char) : Option (Bool × List Char × List Char) :=
  match s with
  | '-' :: s => (readDigits s).map fun (digits, rest) => (true, digits, rest)
  | '+' :: s => (readDigits s).map fun (digits, rest) => (false, digits, rest)
  | s => (readDigits s).map fun (digits, rest) => (false, digits, rest)

/-- Reads a literal without its sign. A whole part of several digits does not begin with nought. -/
def readLiteral (s : List Char) : Option (Literal × List Char) := do
  let (whole, s) ← readDigits s
  if whole.length ≠ 1 && whole.head? == some '0' then none
  let (fraction, s) ← match s with
    | '.' :: s => (readDigits s).map fun (digits, rest) => (some digits, rest)
    | s => some (none, s)
  let (exponent, s) ← match s with
    | 'e' :: s => (readExponent s).map fun (down, digits, rest) => (some (down, digits), rest)
    | 'E' :: s => (readExponent s).map fun (down, digits, rest) => (some (down, digits), rest)
    | s => some (none, s)
  return (⟨whole, fraction, exponent⟩, s)

def readNumber (minus : Bool) (s : List Char) : Option (Json × List Char) :=
  (readLiteral s).map fun (literal, rest) =>
    (match literal.number? minus with | some n => .number n | none => .unreadable, rest)

/-- Reads one of the three words. -/
def readWord (s : List Char) : Option (Json × List Char) :=
  match s with
  | 'n' :: 'u' :: 'l' :: 'l' :: s => some (.null, s)
  | 't' :: 'r' :: 'u' :: 'e' :: s => some (.bool true, s)
  | 'f' :: 'a' :: 'l' :: 's' :: 'e' :: s => some (.bool false, s)
  | _ => none

mutual
/-- Reads a value from the front of a text. `depth` counts the containers around it. -/
def readValue : Nat → Nat → List Char → Option (Json × List Char)
  | 0, _, _ => none
  | fuel + 1, depth, s =>
    match skipSpace s with
    | '\x22' :: s => (readString (s.length + 1) [] true s).map fun (text, rest) =>
      (match text with | some t => .string t | none => .unreadable, rest)
    | '-' :: s => readNumber true s
    | '[' :: s => match skipSpace s with
      | ']' :: s => some (if depth < maxDepth then .array [] else .unreadable, s)
      | s => (readItems fuel (depth + 1) s).map fun (items, rest) =>
        (if depth < maxDepth then .array items else .unreadable, rest)
    | '\x7b' :: s => match skipSpace s with
      | '\x7d' :: s => some (if depth < maxDepth then .object [] else .unreadable, s)
      | s => (readMembers fuel (depth + 1) s).map fun (members, rest) =>
        (match members with
          | some found => if depth < maxDepth then .object found else .unreadable
          | none => .unreadable, rest)
    | s => if (s.head?.map Char.isDigit).getD false then readNumber false s else readWord s

/-- Reads the items of an array that has at least one, with the closing bracket. -/
def readItems : Nat → Nat → List Char → Option (List Json × List Char)
  | 0, _, _ => none
  | fuel + 1, depth, s => do
    let (v, s) ← readValue fuel depth s
    match skipSpace s with
    | ',' :: s => (readItems fuel depth s).map fun (items, rest) => (v :: items, rest)
    | ']' :: s => return ([v], s)
    | _ => none

/-- Reads the members of an object that has at least one, with the closing brace. There are none to look at when a key
has no text. -/
def readMembers : Nat → Nat → List Char → Option (Option (List (String × Json)) × List Char)
  | 0, _, _ => none
  | fuel + 1, depth, s => do
    let '\x22' :: s := skipSpace s | none
    let (key, s) ← readString (s.length + 1) [] true s
    let ':' :: s := skipSpace s | none
    let (v, s) ← readValue fuel depth s
    let member := key.map (·, v)
    match skipSpace s with
    | ',' :: s => (readMembers fuel depth s).map fun (members, rest) =>
      (member.bind fun first => members.map (first :: ·), rest)
    | '\x7d' :: s => return (member.map ([·]), s)
    | _ => none
end

/-- Reads a text that is one value with nothing but space around it. -/
def parse (text : String) : Option Json := do
  let (v, rest) ← readValue (2 * text.length + 2) 0 text.toList
  if (skipSpace rest).isEmpty then some v else none

end Plumbline.Json
