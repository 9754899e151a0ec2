import Plumbline.Markdown.Cursor

namespace Plumbline.Markdown

/-- What blocks may stand in. -/
inductive Container where
  | quote
  | list (sign : Char) (isTight : Bool)
  /-- An item whose content stands `indent` columns in. -/
  | item (indent : Nat)
deriving DecidableEq, Repr

namespace Container

/-- Passes over what a line needs to be in the container. Items go on over blank lines. -/
def enter? (cursor : Cursor) : Container → Option Cursor
  | .quote =>
    let (_, inner) := cursor.take 3
    if inner.rest.head? = some '>' then some ((inner.advance 1).take 1).2 else none
  | .list _ _ => some cursor
  | .item indent => match cursor.take indent with
    | (0, inner) => some inner
    | (_, inner) => if inner.isAtEnd then some inner else none

/-- How many containers, from the outermost on, a line is in, and the place behind what they need. -/
def enter (cursor : Cursor) : List Container → Nat × Cursor
  | [] => (0, cursor)
  | container :: inner => match container.enter? cursor with
    | none => (0, cursor)
    | some behind =>
      let (depth, last) := enter behind inner
      (depth + 1, last)

/-- The place in the first line of a text, if that line is in all of the containers. -/
def enterAll? (containers : List Container) (s : List Char) : Option Cursor :=
  match enter (.start s) containers with
  | (depth, cursor) => if depth = containers.length then some cursor else none

end Container

end Plumbline.Markdown
