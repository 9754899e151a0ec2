import Mathlib.Data.List.Basic
import Mathlib.Data.List.TakeWhile
import Plumbline.Blueprint.Document

namespace Plumbline

namespace Markdown.Leaf

variable {Text : Type}

def isHeading : Leaf Text → Bool
  | heading _ _ => true
  | _ => false

def isCode : Leaf Text → Bool
  | code _ _ => true
  | _ => false

/-- Some leaves, each with the number of headings up to it when there are `opened` before them. -/
def numbered (opened : Nat) : List (Leaf Text) → List (Nat × Leaf Text)
  | [] => []
  | leaf :: rest =>
    let opened := if leaf.isHeading then opened + 1 else opened
    (opened, leaf) :: numbered opened rest

variable {leaves later : List (Leaf Text)} {opened : Nat}

theorem numbered_heading (level : Nat) (text : Text) (leaves : List (Leaf Text)) :
    numbered opened (heading level text :: leaves) =
      (opened + 1, heading level text) :: numbered (opened + 1) leaves := rfl

theorem numbered_append : numbered opened (leaves ++ later) =
    numbered opened leaves ++ numbered (opened + leaves.countP isHeading) later := by
  induction leaves generalizing opened with
  | nil => rfl
  | cons leaf rest ih =>
    by_cases here : leaf.isHeading = true
    · simp only [List.cons_append, numbered, here, if_true, ih, List.countP_cons_of_pos here, Nat.add_assoc,
        Nat.add_comm 1]
    · simp only [List.cons_append, numbered, here, Bool.false_eq_true, if_false, ih, List.countP_cons_of_neg here]

theorem numbered_bounds {number : Nat} {leaf : Leaf Text} (member : (number, leaf) ∈ numbered opened leaves) :
    opened ≤ number ∧ number ≤ opened + leaves.countP isHeading := by
  induction leaves generalizing opened with
  | nil => cases member
  | cons first rest ih =>
    rw [List.countP_cons]
    rw [numbered, List.mem_cons, Prod.mk.injEq] at member
    by_cases here : first.isHeading = true
    · rw [if_pos here] at member ⊢
      rcases member with ⟨rfl, _⟩ | later
      · omega
      · have bounds := ih later
        omega
    · rw [if_neg here] at member ⊢
      rcases member with ⟨rfl, _⟩ | later
      · omega
      · have bounds := ih later
        omega

theorem mem_of_mem_numbered {number : Nat} {leaf : Leaf Text} (member : (number, leaf) ∈ numbered opened leaves) :
    leaf ∈ leaves := by
  induction leaves generalizing opened with
  | nil => cases member
  | cons first rest ih =>
    rcases List.mem_cons.mp member with same | later
    · exact (Prod.mk.inj same).2 ▸ List.mem_cons_self
    · exact List.mem_cons_of_mem first (ih later)

theorem numbered_sorted : (numbered opened leaves).Pairwise fun a b => a.1 ≤ b.1 := by
  induction leaves generalizing opened with
  | nil => exact .nil
  | cons first rest ih => exact .cons (fun b later => (numbered_bounds later).1) ih

end Markdown.Leaf

namespace Document

open Markdown

/-- The heading that stands above something when this many have been met. -/
def above (opened : Nat) : Option Nat := if opened = 0 then none else some (opened - 1)

def headingOf? : Leaf (List Char) → Option Heading
  | .heading level s => some ⟨level, trimmed s⟩
  | _ => none

def blockOf? : Nat × Leaf (List Char) → Option CodeBlock
  | (opened, .code info s) => some ⟨languageOf info, String.ofList s, above opened⟩
  | _ => none

def paragraphOf? : Nat × Leaf (List Char) → Option Paragraph
  | (opened, .paragraph _ s) => some ⟨trimmed s, above opened⟩
  | _ => none

def ofLeaves (leaves : List (Leaf (List Char))) : Document where
  headings := leaves.filterMap headingOf?
  blocks := (Leaf.numbered 0 leaves).filterMap blockOf?
  paragraphs := (Leaf.numbered 0 leaves).filterMap paragraphOf?

theorem blocks_ofLeaves (leaves : List (Leaf (List Char))) :
    (ofLeaves leaves).blocks = (Leaf.numbered 0 leaves).filterMap blockOf? := rfl

theorem current_eq (document : Document) : document.current = above document.headings.length := by
  rw [current, above]
  cases document.headings <;> rfl

/-- What leaves add to a document depends only on how many headings it has. -/
theorem foldl_add (document : Document) (leaves : List (Leaf (List Char))) : leaves.foldl add document =
    ⟨document.headings ++ leaves.filterMap headingOf?,
      document.blocks ++ (Leaf.numbered document.headings.length leaves).filterMap blockOf?,
      document.paragraphs ++ (Leaf.numbered document.headings.length leaves).filterMap paragraphOf?⟩ := by
  induction leaves generalizing document with
  | nil => simp [Leaf.numbered]
  | cons leaf rest ih =>
    rw [List.foldl_cons, ih]
    cases leaf <;>
      simp [add, Leaf.numbered, Leaf.isHeading, headingOf?, blockOf?, paragraphOf?, current_eq, List.filterMap_cons]

theorem foldl_add_eq (leaves : List (Leaf (List Char))) : leaves.foldl add empty = ofLeaves leaves :=
  foldl_add empty leaves

theorem length_headings_ofLeaves (leaves : List (Leaf (List Char))) :
    (ofLeaves leaves).headings.length = leaves.countP Leaf.isHeading := by
  rw [ofLeaves, List.length_filterMap_eq_countP]
  refine List.countP_congr fun leaf _ => ?_
  cases leaf <;> simp [headingOf?, Leaf.isHeading]

theorem above_mono {a b : Nat} (order : a ≤ b) : above a ≤ above b := by
  unfold above
  by_cases first : a = 0
  · rw [if_pos first]
    exact Option.none_le
  · rw [if_neg first, if_neg (by omega)]
    exact Option.some_le_some.mpr (Nat.sub_le_sub_right order 1)

theorem lt_of_mem_above {i number : Nat} (member : i ∈ above number) : i < number := by
  unfold above at member
  by_cases first : number = 0
  · rw [if_pos first] at member
    cases member
  · rw [if_neg first] at member
    have same := Option.some.inj member
    omega

theorem heading_of_blockOf? {number : Nat} {leaf : Leaf (List Char)} {block : CodeBlock}
    (made : blockOf? (number, leaf) = some block) : block.heading = above number := by
  cases leaf with
  | heading _ _ => cases made
  | code _ _ => exact congrArg CodeBlock.heading (Option.some.inj made).symm
  | paragraph _ _ => cases made

theorem heading_of_paragraphOf? {number : Nat} {leaf : Leaf (List Char)} {paragraph : Paragraph}
    (made : paragraphOf? (number, leaf) = some paragraph) : paragraph.heading = above number := by
  cases leaf with
  | heading _ _ => cases made
  | code _ _ => cases made
  | paragraph _ _ => exact congrArg Paragraph.heading (Option.some.inj made).symm

section Places

variable {Item : Type} {item? : Nat × Leaf (List Char) → Option Item} {place : Item → Option Nat}

theorem lt_of_mem_place (under : ∀ number leaf item, item? (number, leaf) = some item → place item = above number)
    (leaves : List (Leaf (List Char))) :
    ∀ item ∈ (Leaf.numbered 0 leaves).filterMap item?, ∀ i ∈ place item, i < (ofLeaves leaves).headings.length := by
  intro item member i within
  obtain ⟨⟨number, leaf⟩, listed, made⟩ := List.mem_filterMap.mp member
  rw [under number leaf item made] at within
  have most := (Leaf.numbered_bounds listed).2
  have least := lt_of_mem_above within
  rw [length_headings_ofLeaves]
  omega

theorem pairwise_place (under : ∀ number leaf item, item? (number, leaf) = some item → place item = above number)
    (leaves : List (Leaf (List Char))) :
    ((Leaf.numbered 0 leaves).filterMap item?).Pairwise fun a b => place a ≤ place b := by
  refine Leaf.numbered_sorted.filterMap item? fun a b order x ofA y ofB => ?_
  rw [under a.1 a.2 x ofA, under b.1 b.2 y ofB]
  exact above_mono order

end Places

/-- Whether some leaves are those of the section that a heading of this number and level opens: they stand behind it, up to
the next heading that is no deeper, or to the end. -/
def IsSection (leaves : List (Leaf (List Char))) (start level : Nat) (inside : List (Leaf (List Char))) : Prop :=
  ∃ before title behind, leaves = before ++ .heading level title :: (inside ++ behind) ∧
    before.countP Leaf.isHeading = start ∧
    (∀ deeper text, .heading deeper text ∈ inside → level < deeper) ∧
    ∀ leaf ∈ behind.head?, ∃ other text, leaf = .heading other text ∧ other ≤ level

section Sections

variable {leaves inside : List (Leaf (List Char))} {start level : Nat}

theorem headings_ofLeaves_heading (level : Nat) (title : List Char) (rest : List (Leaf (List Char))) :
    (ofLeaves (.heading level title :: rest)).headings = ⟨level, trimmed title⟩ :: (ofLeaves rest).headings := rfl

theorem headings_ofLeaves_split (before rest : List (Leaf (List Char))) (level : Nat) (title : List Char) :
    (ofLeaves (before ++ .heading level title :: rest)).headings =
      (ofLeaves before).headings ++ ⟨level, trimmed title⟩ :: (ofLeaves rest).headings := by
  simp [ofLeaves, headingOf?]

theorem IsSection.headings_eq (opens : IsSection leaves start level inside) :
    ∃ opening, (ofLeaves leaves).headings[start]? = some opening ∧ opening.level = level := by
  obtain ⟨before, title, behind, rfl, count, _⟩ := opens
  have place : (ofLeaves before).headings.length = start := (length_headings_ofLeaves before).trans count
  refine ⟨⟨level, trimmed title⟩, ?_, rfl⟩
  rw [headings_ofLeaves_split, List.getElem?_append_right (by omega), place, Nat.sub_self, List.getElem?_cons_zero]

theorem findIdx?_headings_eq_none (deeper : ∀ other text, .heading other text ∈ inside → level < other) :
    (ofLeaves inside).headings.findIdx? (fun heading => heading.level ≤ level) = none := by
  rw [List.findIdx?_eq_none_iff]
  intro heading member
  obtain ⟨leaf, within, made⟩ := List.mem_filterMap.mp member
  cases leaf with
  | heading other text =>
    obtain rfl := Option.some.inj made
    exact decide_eq_false (Nat.not_le.mpr (deeper other text within))
  | code _ _ => cases made
  | paragraph _ _ => cases made

theorem IsSection.sectionEnd_eq (opens : IsSection leaves start level inside) :
    (ofLeaves leaves).sectionEnd start level = start + 1 + inside.countP Leaf.isHeading := by
  obtain ⟨before, title, behind, rfl, count, deeper, closes⟩ := opens
  have place : (ofLeaves before).headings.length = start := (length_headings_ofLeaves before).trans count
  have length : (ofLeaves inside).headings.length = inside.countP Leaf.isHeading := length_headings_ofLeaves inside
  have later : (ofLeaves (before ++ .heading level title :: (inside ++ behind))).headings.drop (start + 1) =
      (ofLeaves inside).headings ++ (ofLeaves behind).headings := by
    rw [headings_ofLeaves_split, ← List.singleton_append, ← List.append_assoc, List.drop_left' (by simp [place])]
    simp [ofLeaves]
  rw [sectionEnd, later, List.findIdx?_append, findIdx?_headings_eq_none deeper, Option.none_or]
  cases behind with
  | nil =>
    have all : (ofLeaves (before ++ .heading level title :: (inside ++ []))).headings.length =
        start + 1 + inside.countP Leaf.isHeading := by
      rw [length_headings_ofLeaves, List.countP_append, List.countP_cons_of_pos rfl, List.append_nil, count]
      omega
    exact all
  | cons leaf rest =>
    obtain ⟨other, text, rfl, shallow⟩ := closes leaf rfl
    rw [headings_ofLeaves_heading, List.findIdx?_cons, if_pos (decide_eq_true shallow), Option.map_some, length,
      Nat.zero_add]

theorem exists_number_of_mem_blocks {opened : Nat} {block : CodeBlock}
    (member : block ∈ (Leaf.numbered opened leaves).filterMap blockOf?) :
    ∃ number, block.heading = above number ∧ opened ≤ number ∧ number ≤ opened + leaves.countP Leaf.isHeading := by
  obtain ⟨⟨number, leaf⟩, listed, made⟩ := List.mem_filterMap.mp member
  exact ⟨number, heading_of_blockOf? made, Leaf.numbered_bounds listed⟩

/-- Whether a block stands under one of the headings from one place up to another. -/
def StandsIn (start stop : Nat) (block : CodeBlock) : Bool :=
  block.heading.any fun heading => start ≤ heading && heading < stop

theorem standsIn_iff {block : CodeBlock} {number stop : Nat} (under : block.heading = above number) :
    StandsIn start stop block = true ↔ start < number ∧ number ≤ stop := by
  rw [StandsIn, under, above]
  by_cases first : number = 0
  · simp [first]
  · simp only [first, if_false, Option.any_some, Bool.and_eq_true, decide_eq_true_eq]
    omega

theorem find?_standsIn_eq_none {opened stop : Nat}
    (apart : opened + leaves.countP Leaf.isHeading ≤ start ∨ stop < opened) :
    ((Leaf.numbered opened leaves).filterMap blockOf?).find? (StandsIn start stop) = none := by
  refine List.find?_eq_none.mpr fun block member => ?_
  obtain ⟨number, under, least, most⟩ := exists_number_of_mem_blocks member
  rw [standsIn_iff under]
  omega

theorem find?_standsIn_eq_head? {opened stop : Nat} (after : start < opened)
    (upto : opened + leaves.countP Leaf.isHeading ≤ stop) :
    ((Leaf.numbered opened leaves).filterMap blockOf?).find? (StandsIn start stop) =
      ((Leaf.numbered opened leaves).filterMap blockOf?).head? := by
  have all : ∀ block ∈ (Leaf.numbered opened leaves).filterMap blockOf?, StandsIn start stop block = true := by
    intro block member
    obtain ⟨number, under, least, most⟩ := exists_number_of_mem_blocks member
    rw [standsIn_iff under]
    omega
  rw [← List.head?_filter, List.filter_eq_self.mpr all]

/-- Blocks before a section and behind it stand under other headings, and those in it under its own ones. -/
theorem IsSection.firstBlockInSection?_eq (opens : IsSection leaves start level inside) :
    (ofLeaves leaves).firstBlockInSection? start = ((Leaf.numbered (start + 1) inside).filterMap blockOf?).head? := by
  obtain ⟨opening, found, rfl⟩ := opens.headings_eq
  have stop := opens.sectionEnd_eq
  have searched : (ofLeaves leaves).firstBlockInSection? start =
      (ofLeaves leaves).blocks.find? (StandsIn start (start + 1 + inside.countP Leaf.isHeading)) := by
    rw [firstBlockInSection?, found, Option.bind_eq_bind, Option.bind_some, stop]
    rfl
  obtain ⟨before, title, behind, rfl, count, deeper, closes⟩ := opens
  have blocks : (ofLeaves (before ++ .heading opening.level title :: (inside ++ behind))).blocks =
      (Leaf.numbered 0 before).filterMap blockOf? ++ ((Leaf.numbered (start + 1) inside).filterMap blockOf? ++
        (Leaf.numbered (start + 1 + inside.countP Leaf.isHeading) behind).filterMap blockOf?) := by
    rw [blocks_ofLeaves, Leaf.numbered_append, Nat.zero_add, count, Leaf.numbered_heading, Leaf.numbered_append,
      List.filterMap_append, List.filterMap_cons_none rfl, List.filterMap_append]
  have none_behind : ((Leaf.numbered (start + 1 + inside.countP Leaf.isHeading) behind).filterMap blockOf?).find?
      (StandsIn start (start + 1 + inside.countP Leaf.isHeading)) = none := by
    cases behind with
    | nil => rfl
    | cons leaf rest =>
      obtain ⟨other, text, rfl, _⟩ := closes leaf rfl
      rw [Leaf.numbered_heading, List.filterMap_cons_none rfl]
      exact find?_standsIn_eq_none (.inr (Nat.lt_succ_self _))
  rw [searched, blocks, List.find?_append, find?_standsIn_eq_none (.inl (by omega)), Option.none_or, List.find?_append,
    none_behind, Option.or_none, find?_standsIn_eq_head? (Nat.lt_succ_self start) (Nat.le_refl _)]

theorem exists_heading_split (within : start < leaves.countP Leaf.isHeading) : ∃ before level title later,
    leaves = before ++ .heading level title :: later ∧ before.countP Leaf.isHeading = start := by
  induction leaves generalizing start with
  | nil => cases within
  | cons leaf rest ih =>
    by_cases here : leaf.isHeading = true
    · obtain ⟨level, title, rfl⟩ : ∃ level title, leaf = .heading level title := by
        cases leaf <;> simp [Leaf.isHeading] at here ⊢
      cases start with
      | zero => exact ⟨[], level, title, rest, rfl, rfl⟩
      | succ start =>
        rw [List.countP_cons_of_pos here] at within
        obtain ⟨before, level', title', later, rfl, count⟩ := ih (Nat.lt_of_succ_lt_succ within)
        exact ⟨.heading level title :: before, level', title', later, rfl, by rw [List.countP_cons_of_pos here, count]⟩
    · rw [List.countP_cons_of_neg here] at within
      obtain ⟨before, level, title, later, rfl, count⟩ := ih within
      exact ⟨leaf :: before, level, title, later, rfl, by rw [List.countP_cons_of_neg here, count]⟩

def Closes (level : Nat) : Leaf (List Char) → Bool
  | .heading other _ => other ≤ level
  | _ => false

theorem exists_isSection (within : start < (ofLeaves leaves).headings.length) :
    ∃ level inside, IsSection leaves start level inside := by
  rw [length_headings_ofLeaves] at within
  obtain ⟨before, level, title, later, rfl, count⟩ := exists_heading_split within
  refine ⟨level, later.takeWhile (!Closes level ·), before, title, later.dropWhile (!Closes level ·), ?_, count, ?_, ?_⟩
  · rw [List.takeWhile_append_dropWhile]
  · intro deeper text member
    have stays := List.mem_takeWhile_imp member
    simpa [Closes] using stays
  · intro leaf first
    have stops := List.head?_dropWhile_not (!Closes level ·) later
    rw [Option.mem_def.mp first] at stops
    cases leaf with
    | heading other text => exact ⟨other, text, rfl, by simpa [Closes] using stops⟩
    | code _ _ => simp [Closes] at stops
    | paragraph _ _ => simp [Closes] at stops

section First

variable {opened : Nat}

theorem blocks_eq_nil (none : ∀ leaf ∈ inside, leaf.isCode = false) :
    (Leaf.numbered opened inside).filterMap blockOf? = [] := by
  rw [List.filterMap_eq_nil_iff]
  rintro ⟨number, leaf⟩ member
  have codeless := none leaf (Leaf.mem_of_mem_numbered member)
  cases leaf with
  | heading _ _ => rfl
  | code _ _ => cases codeless
  | paragraph _ _ => rfl

theorem head?_blocks {before behind : List (Leaf (List Char))} {info s : List Char}
    (none : ∀ leaf ∈ before, leaf.isCode = false) :
    ((Leaf.numbered opened (before ++ .code info s :: behind)).filterMap blockOf?).head? =
      some ⟨languageOf info, String.ofList s, above (opened + before.countP Leaf.isHeading)⟩ := by
  rw [Leaf.numbered_append, List.filterMap_append, blocks_eq_nil none, List.nil_append]
  rfl

theorem codeless_or_exists_first (inside : List (Leaf (List Char))) : (∀ leaf ∈ inside, leaf.isCode = false) ∨
    ∃ before info s behind, inside = before ++ .code info s :: behind ∧ ∀ leaf ∈ before, leaf.isCode = false := by
  cases found : inside.find? Leaf.isCode with
  | none => exact .inl fun leaf member => Bool.eq_false_iff.mpr (List.find?_eq_none.mp found leaf member)
  | some leaf =>
    obtain ⟨coded, before, behind, whole, none⟩ := List.find?_eq_some_iff_append.mp found
    obtain ⟨info, s, rfl⟩ : ∃ info s, leaf = .code info s := by
      cases leaf <;> simp [Leaf.isCode] at coded ⊢
    exact .inr ⟨before, info, s, behind, whole, fun leaf member => by simpa using none leaf member⟩

end First

theorem IsSection.firstBlock_eq {before behind : List (Leaf (List Char))} {info s : List Char}
    (opens : IsSection leaves start level (before ++ .code info s :: behind))
    (none : ∀ leaf ∈ before, leaf.isCode = false) : (ofLeaves leaves).firstBlockInSection? start =
      some ⟨languageOf info, String.ofList s, some (start + before.countP Leaf.isHeading)⟩ := by
  have under : above (start + 1 + before.countP Leaf.isHeading) = some (start + before.countP Leaf.isHeading) := by
    rw [above, if_neg (by omega), Nat.add_right_comm, Nat.add_sub_cancel]
  rw [opens.firstBlockInSection?_eq, head?_blocks none, under]

theorem IsSection.firstBlock_eq_none_iff (opens : IsSection leaves start level inside) :
    (ofLeaves leaves).firstBlockInSection? start = none ↔ ∀ leaf ∈ inside, leaf.isCode = false := by
  constructor
  · intro absent
    rcases codeless_or_exists_first inside with none | ⟨before, info, s, behind, rfl, none⟩
    · exact none
    · rw [opens.firstBlock_eq none] at absent
      cases absent
  · intro none
    rw [opens.firstBlockInSection?_eq, blocks_eq_nil none]
    rfl

end Sections

/-- Whether a document is that of some leaves, with places in the order of the headings and sections found by their levels. -/
structure IsSectioned (document : Document) (leaves : List (Leaf (List Char))) : Prop where
  made : document = ofLeaves leaves
  blocks_within : ∀ block ∈ document.blocks, ∀ i ∈ block.heading, i < document.headings.length
  paragraphs_within : ∀ paragraph ∈ document.paragraphs, ∀ i ∈ paragraph.heading, i < document.headings.length
  blocks_ordered : document.blocks.Pairwise fun a b => a.heading ≤ b.heading
  paragraphs_ordered : document.paragraphs.Pairwise fun a b => a.heading ≤ b.heading
  exists_section : ∀ start < document.headings.length, ∃ level inside, IsSection leaves start level inside
  opening : ∀ {start level inside}, IsSection leaves start level inside →
    ∃ heading, document.headings[start]? = some heading ∧ heading.level = level
  firstBlock_eq_none_iff : ∀ {start level inside}, IsSection leaves start level inside →
    (document.firstBlockInSection? start = none ↔ ∀ leaf ∈ inside, leaf.isCode = false)
  firstBlock_eq : ∀ {start level before info s behind},
    IsSection leaves start level (before ++ .code info s :: behind) → (∀ leaf ∈ before, leaf.isCode = false) →
    document.firstBlockInSection? start =
      some ⟨languageOf info, String.ofList s, some (start + before.countP Leaf.isHeading)⟩

theorem isSectioned_ofLeaves (leaves : List (Leaf (List Char))) : (ofLeaves leaves).IsSectioned leaves where
  made := rfl
  blocks_within := lt_of_mem_place (fun _ _ _ => heading_of_blockOf?) leaves
  paragraphs_within := lt_of_mem_place (fun _ _ _ => heading_of_paragraphOf?) leaves
  blocks_ordered := pairwise_place (fun _ _ _ => heading_of_blockOf?) leaves
  paragraphs_ordered := pairwise_place (fun _ _ _ => heading_of_paragraphOf?) leaves
  exists_section _ within := exists_isSection within
  opening opens := opens.headings_eq
  firstBlock_eq_none_iff opens := opens.firstBlock_eq_none_iff
  firstBlock_eq opens := opens.firstBlock_eq

end Document

end Plumbline
