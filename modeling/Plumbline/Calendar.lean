namespace Plumbline

/-- A moment by the Gregorian calendar at the meridian, which counts years before the first one as nought and below. -/
structure Moment where
  year : Int
  month : Nat
  day : Nat
  hour : Nat
  minute : Nat
  second : Nat
deriving DecidableEq, Repr

namespace Moment

/-- Days in four hundred years, after which the calendar repeats. -/
def eraDays : Int := 146097

/-- The day with this number, where the first of March of year nought is the first day. Years begin in March here, so
that a leap day ends its year. -/
def dateOfDay (day : Int) : Int × Nat × Nat :=
  let era := Int.fdiv day eraDays
  let day := (Int.fmod day eraDays).toNat
  let year := (day - day / 1460 + day / 36524 - day / 146096) / 365
  let day := day - (365 * year + year / 4 - year / 100)
  let month := (5 * day + 2) / 153
  let day := day - (153 * month + 2) / 5 + 1
  if month < 10 then (era * 400 + year, month + 3, day) else (era * 400 + year + 1, month - 9, day)

/-- The moment this many seconds after the start of 1970. -/
def ofUnix (seconds : Int) : Moment :=
  let (year, month, day) := dateOfDay (Int.fdiv seconds 86400 + 719468)
  let rest := (Int.fmod seconds 86400).toNat
  ⟨year, month, day, rest / 3600, rest / 60 % 60, rest % 60⟩

/-- A number with noughts in front up to a width. -/
def padded (width n : Nat) : String := "".pushn '0' (width - (toString n).length) ++ toString n

/-- A year of four digits; with its sign when they do not suffice. -/
def yearText (year : Int) : String :=
  (if year < 0 then "-" else if 9999 < year then "+" else "") ++ padded 4 year.natAbs

/-- The moment as manifests record it. -/
def text (m : Moment) : String :=
  yearText m.year ++ "-" ++ padded 2 m.month ++ "-" ++ padded 2 m.day ++ "T" ++ padded 2 m.hour ++ ":" ++
    padded 2 m.minute ++ ":" ++ padded 2 m.second ++ "Z"

/-- The moment as part of a file name. -/
def stamp (m : Moment) : String :=
  yearText m.year ++ padded 2 m.month ++ padded 2 m.day ++ "_" ++ padded 2 m.hour ++ padded 2 m.minute ++
    padded 2 m.second

end Moment

end Plumbline
