import Plumbline.Proofs.Blueprint.Sections

namespace Plumbline

namespace Markdown

inductive Event where
  | startHeading (level : Nat)
  /-- Indented code has no info. -/
  | startCode (info : List Char)
  | startParagraph
  | text (s : List Char)
  | lineBreak
  | endHeading
  | endCode
  | endParagraph
  | other

/-- What text belongs to while events pass by, and the text so far. -/
inductive Capture where
  | idle
  | heading (level : Nat) (text : List Char)
  | code (info text : List Char)
  | paragraph (text : List Char)

namespace Capture

/-- An end closes whatever is open, and gives a leaf when it is the right one. -/
def step : Capture → Event → Capture × Option (Leaf (List Char))
  | _, .startHeading level => (heading level [], none)
  | _, .startCode info => (code info [], none)
  | idle, .startParagraph => (paragraph [], none)
  | heading level s, .text more => (heading level (s ++ more), none)
  | code info s, .text more => (code info (s ++ more), none)
  | paragraph s, .text more => (paragraph (s ++ more), none)
  | heading level s, .lineBreak => (heading level (s ++ [' ']), none)
  | paragraph s, .lineBreak => (paragraph (s ++ [' ']), none)
  | heading level s, .endHeading => (idle, some (.heading level s))
  | _, .endHeading => (idle, none)
  | code info s, .endCode => (idle, some (.code info s))
  | _, .endCode => (idle, none)
  | paragraph s, .endParagraph => (idle, some (.paragraph false s))
  | _, .endParagraph => (idle, none)
  | capture, _ => (capture, none)

/-- The leaves that events close, in order. -/
def run (capture : Capture) : List Event → List (Leaf (List Char))
  | [] => []
  | event :: rest => (capture.step event).2.toList ++ run (capture.step event).1 rest

end Capture

namespace Leaf

/-- The leaf as events tell it: whether a paragraph was undecided no longer shows. -/
def settled : Leaf (List Char) → Leaf (List Char)
  | paragraph _ s => paragraph false s
  | leaf => leaf

def events : Leaf (List Char) → List Event
  | heading level s => [.startHeading level, .text s, .endHeading]
  | code info s => [.startCode info, .text s, .endCode]
  | paragraph _ s => [.startParagraph, .text s, .endParagraph]

theorem run_events_append (leaf : Leaf (List Char)) (rest : List Event) :
    Capture.idle.run (leaf.events ++ rest) = leaf.settled :: Capture.idle.run rest := by
  cases leaf <;> rfl

theorem run_flatMap_events (leaves : List (Leaf (List Char))) :
    Capture.idle.run (leaves.flatMap events) = leaves.map settled := by
  induction leaves with
  | nil => rfl
  | cons leaf rest ih => rw [List.flatMap_cons, run_events_append, ih, List.map_cons]

end Leaf

end Markdown

namespace Document

open Markdown

structure Scan where
  document : Document
  capture : Capture

namespace Scan

def step (scan : Scan) (event : Event) : Scan where
  document := (scan.capture.step event).2.elim scan.document scan.document.add
  capture := (scan.capture.step event).1

/-- Events put the leaves that they close into the document, one after the other. -/
theorem document_foldl_step (scan : Scan) (events : List Event) :
    (events.foldl step scan).document = (scan.capture.run events).foldl add scan.document := by
  induction events generalizing scan with
  | nil => rfl
  | cons event rest ih =>
    rw [List.foldl_cons, ih, Capture.run, List.foldl_append]
    unfold step
    cases (scan.capture.step event).2 <;> rfl

end Scan

def ofEvents (events : List Event) : Document := (events.foldl Scan.step ⟨empty, .idle⟩).document

theorem ofEvents_eq (events : List Event) : ofEvents events = ofLeaves (Capture.idle.run events) :=
  (Scan.document_foldl_step ⟨empty, .idle⟩ events).trans (foldl_add_eq _)

theorem add_settled (document : Document) (leaf : Leaf (List Char)) : document.add leaf.settled = document.add leaf := by
  cases leaf <;> rfl

/-- A text is read as if its leaves were met as events. -/
theorem ofText_eq_ofEvents (text : String) :
    ofText text = ofEvents ((Markdown.leaves text.toList).flatMap Leaf.events) := by
  have read := Scan.document_foldl_step ⟨empty, .idle⟩ ((Markdown.leaves text.toList).flatMap Leaf.events)
  rw [Leaf.run_flatMap_events, List.foldl_map] at read
  simp only [add_settled] at read
  exact read.symm

/-- Whatever events come, the document they give has its blocks and paragraphs under headings in order, and finds the first
block of every section. The document of a text is one of these. -/
theorem isSectioned_ofEvents :
    (∀ events, (ofEvents events).IsSectioned (Capture.idle.run events)) ∧
    ∀ text, ofText text = ofEvents ((Markdown.leaves text.toList).flatMap Leaf.events) ∧
      (ofText text).IsSectioned (Markdown.leaves text.toList) := by
  refine ⟨fun events => ?_, fun text => ⟨ofText_eq_ofEvents text, ?_⟩⟩
  · rw [ofEvents_eq]
    exact isSectioned_ofLeaves _
  · rw [ofText, foldl_add_eq]
    exact isSectioned_ofLeaves _

/-- A section reaches over deeper headings. -/
example : (ofEvents [.startHeading 2, .text ['A'], .endHeading, .startHeading 4, .text ['B'], .endHeading,
    .startCode [], .text ['x'], .endCode, .startHeading 2, .text ['C'], .endHeading]).firstBlockInSection? 0 =
      some ⟨"", "x", some 1⟩ := by decide +kernel

end Document

end Plumbline
