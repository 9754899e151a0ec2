namespace Plumbline.Distinct

variable {α : Type} [BEq α]

/-- Adds an item at the end unless it is there already. -/
def add (items : List α) (a : α) : List α := if items.contains a then items else items ++ [a]

def addAll (items more : List α) : List α := more.foldl add items

/-- The items without repetition, each where it stands first. -/
def ofList (items : List α) : List α := addAll [] items

end Plumbline.Distinct
