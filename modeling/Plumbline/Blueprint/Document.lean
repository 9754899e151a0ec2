import Plumbline.Markdown.Block
import Plumbline.Text.Lines

namespace Plumbline

structure Heading where
  level : Nat
  text : String
deriving DecidableEq, Repr

/-- A piece of code. Its language is the first word behind the fence, in lower case. -/
structure CodeBlock where
  language : String
  text : String
  /-- The heading it stands under, counted from the first. -/
  heading : Option Nat
deriving DecidableEq, Repr

structure Paragraph where
  text : String
  /-- The heading it stands under, counted from the first. -/
  heading : Option Nat
deriving DecidableEq, Repr

/-- What matters of a text: headings, code and paragraphs, each in order. -/
structure Document where
  headings : List Heading
  blocks : List CodeBlock
  paragraphs : List Paragraph
deriving DecidableEq, Repr

namespace Document

def empty : Document := ⟨[], [], []⟩

/-- The heading that holds for what comes next. -/
def current (document : Document) : Option Nat :=
  if document.headings.isEmpty then none else some (document.headings.length - 1)

def languageOf (info : List Char) : String := String.ofList (Text.asciiLower ((Text.words info).headD []))

def trimmed (s : List Char) : String := String.ofList (Text.trim s)

def add (document : Document) : Markdown.Leaf (List Char) → Document
  | .heading level s => { document with headings := document.headings ++ [⟨level, trimmed s⟩] }
  | .code info s =>
    { document with blocks := document.blocks ++ [⟨languageOf info, String.ofList s, document.current⟩] }
  | .paragraph _ s => { document with paragraphs := document.paragraphs ++ [⟨trimmed s, document.current⟩] }

def ofText (text : String) : Document := (Markdown.leaves text.toList).foldl add empty

/-- The pieces of code in a language. -/
def blocksIn (document : Document) (language : String) : List CodeBlock :=
  document.blocks.filter (·.language == language)

/-- The first heading that mentions one of the needles, whatever its case. -/
def findHeading? (document : Document) (needles : List String) : Option Nat :=
  document.headings.findIdx? fun heading =>
    needles.any fun needle => Text.contains needle.toList (Text.lower heading.text.toList)

/-- The heading that ends the section of a heading: the next one that is no deeper. -/
def sectionEnd (document : Document) (start level : Nat) : Nat :=
  match (document.headings.drop (start + 1)).findIdx? fun heading => heading.level ≤ level with
  | some more => start + 1 + more
  | none => document.headings.length

/-- The first piece of code in the section of a heading, sections in it included. -/
def firstBlockInSection? (document : Document) (start : Nat) : Option CodeBlock := do
  let opening ← document.headings[start]?
  let stop := document.sectionEnd start opening.level
  document.blocks.find? fun block => block.heading.any fun heading => start ≤ heading && heading < stop

end Document

end Plumbline
