import Plumbline.Markdown.Space

namespace Plumbline.Markdown

/-- A place in a line, with the text from there on. -/
structure Cursor where
  rest : List Char
  /-- Blanks left of a tab that was taken in part. -/
  spare : Nat
  /-- The distance from the last tab, or from the start. -/
  column : Nat
deriving Repr

namespace Cursor

def start (s : List Char) : Cursor := ⟨s, 0, 0⟩

/-- Takes up to `n` columns of blanks, and says how many were missing. A tab reaches to the next multiple of four. -/
def takeColumns : Nat → Nat → List Char → Nat × Cursor
  | 0, column, s => (0, ⟨s, 0, column⟩)
  | n + 1, column, ' ' :: s => takeColumns n (column + 1) s
  | n + 1, column, '\t' :: s =>
    let width := 4 - column % 4
    if n + 1 ≤ width then (0, ⟨s, width - (n + 1), 0⟩) else takeColumns (n + 1 - width) 0 s
  | n + 1, column, s => (n + 1, ⟨s, 0, column⟩)

/-- Takes up to `n` columns of blanks, and says how many were missing. -/
def take (cursor : Cursor) (n : Nat) : Nat × Cursor :=
  if n ≤ cursor.spare then (0, { cursor with spare := cursor.spare - n })
  else takeColumns (n - cursor.spare) cursor.column cursor.rest

/-- Takes exactly `n` columns of blanks. -/
def take? (cursor : Cursor) (n : Nat) : Option Cursor :=
  match cursor.take n with
  | (0, cursor) => some cursor
  | _ => none

/-- Passes over `n` characters. -/
def advance (cursor : Cursor) (n : Nat) : Cursor :=
  { cursor with rest := cursor.rest.drop n, column := cursor.column + n }

def isAtEnd (cursor : Cursor) : Bool := Markdown.isAtEnd cursor.rest

end Cursor

end Plumbline.Markdown
