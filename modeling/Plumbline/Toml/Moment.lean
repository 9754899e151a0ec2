import Plumbline.Toml.Basic

namespace Plumbline.Toml

/-- Reads exactly `n` digits. -/
def digitsOf? : Nat → List Char → Option (Nat × List Char)
  | n, s =>
    let digits := s.take n
    if digits.length = n && digits.all Char.isDigit then
      some (digits.foldl (fun v c => v * 10 + (c.toNat - '0'.toNat)) 0, s.drop n)
    else none

/-- Reads one given character. -/
def mark? (c : Char) : List Char → Option (List Char)
  | d :: s => if c = d then some s else none
  | [] => none

def isLeap (year : Nat) : Bool := year % 4 == 0 && (year % 100 != 0 || year % 400 == 0)

def daysIn (year month : Nat) : Nat :=
  if month = 2 then if isLeap year then 29 else 28
  else if month = 4 || month = 6 || month = 9 || month = 11 then 30
  else 31

def readDate (s : List Char) : Option (List Char) := do
  let (year, s) ← digitsOf? 4 s
  let s ← mark? '-' s
  let (month, s) ← digitsOf? 2 s
  let s ← mark? '-' s
  let (day, s) ← digitsOf? 2 s
  if 1 ≤ month && month ≤ 12 && 1 ≤ day && day ≤ daysIn year month then some s else none

def readTime (s : List Char) : Option (List Char) := do
  let (hour, s) ← digitsOf? 2 s
  let s ← mark? ':' s
  let (minute, s) ← digitsOf? 2 s
  let s ← mark? ':' s
  let (second, s) ← digitsOf? 2 s
  if 23 < hour || 59 < minute || 60 < second then none
  match s with
  | '.' :: c :: rest => some (if c.isDigit then rest.dropWhile Char.isDigit else s)
  | _ => some s

def readOffset (s : List Char) : Option (List Char) :=
  match s with
  | 'Z' :: s => some s
  | 'z' :: s => some s
  | c :: s => if c = '+' || c = '-' then do
      let (hour, s) ← digitsOf? 2 s
      let s ← mark? ':' s
      let (minute, s) ← digitsOf? 2 s
      if hour ≤ 23 && minute ≤ 59 then some s else none
    else none
  | [] => none

/-- Reads a date, a time, or both with or without an offset, and returns the text after it. -/
def readMoment (s : List Char) : Option (List Char) :=
  match readDate s with
  | none => readTime s
  | some afterDate =>
    let afterTime := match afterDate with
      | c :: rest => if c = 'T' || c = 't' || c = ' ' then readTime rest else none
      | [] => none
    match afterTime with
    | none => some afterDate
    | some afterTime => some ((readOffset afterTime).getD afterTime)

/-- Reads the time in a text that is a moment by itself, where a day may have an hour 24. -/
def readLateTime (s : List Char) : Option (List Char) :=
  match s with
  | '2' :: '4' :: s => readTime ('0' :: '0' :: s)
  | s => readTime s

/-- Reads the offset that ends a text, or nothing. It is at most a day; its minutes may be any two digits. -/
def endsInOffset (s : List Char) : Bool :=
  match s with
  | [] => true
  | ['Z'] => true
  | ['z'] => true
  | c :: s => (c == '+' || c == '-') && (do
      let (hour, s) ← digitsOf? 2 s
      let s ← mark? ':' s
      let (minute, s) ← digitsOf? 2 s
      return s.isEmpty && hour * 60 + minute ≤ 24 * 60 : Option Bool).getD false

/-- Whether a text is a date, a time, or both with or without an offset. -/
def isMoment (text : String) : Bool :=
  let s := text.toList
  if s[2]? = some ':' then (readLateTime s).any (·.isEmpty)
  else match readDate s with
    | none => false
    | some [] => true
    | some (c :: rest) =>
      (c == 'T' || c == 't' || c == ' ') && (readLateTime rest).any endsInOffset

mutual
/-- The same value with moments for the tables that stand for one. A table whose first key is `momentKey` must have the
text of a moment under it; the keys after it do not count. -/
def withMoments? : Toml → Option Toml
  | .array items => (itemsWithMoments? items).map .array
  | .table entries =>
    if entries.head?.map (·.1) = some momentKey then
      if (entries.head?.bind (·.2.text?)).any isMoment then some .moment else none
    else (entriesWithMoments? entries).map .table
  | v => some v

def itemsWithMoments? : List Toml → Option (List Toml)
  | [] => some []
  | v :: rest => do return (← withMoments? v) :: (← itemsWithMoments? rest)

def entriesWithMoments? : List (String × Toml) → Option (List (String × Toml))
  | [] => some []
  | (key, v) :: rest => do return (key, ← withMoments? v) :: (← entriesWithMoments? rest)
end

end Plumbline.Toml
