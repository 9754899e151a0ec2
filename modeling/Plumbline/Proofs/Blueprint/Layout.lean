import Plumbline.Blueprint.Layout
import Plumbline.Proofs.NameMap

namespace Plumbline.LayoutNode

open NameMap

/-- What a directory holds. -/
abbrev Entries := List (String × LayoutNode)

/-- Whether something holds of the entries of a directory and of those of every directory in it, at any depth. -/
inductive Throughout (P : Entries → Prop) : Entries → Prop
  | intro {entries : Entries} (here : P entries)
      (below : ∀ name inner, (name, directory inner) ∈ entries → Throughout P inner) : Throughout P entries

/-- Whether something holds of every name in a layout. -/
def Named (P : String → Prop) : Entries → Prop := Throughout fun entries => ∀ entry ∈ entries, P entry.1

/-- At every depth the names stand in increasing order, so that none stands twice. -/
def Ordered : Entries → Prop := Throughout fun entries => entries.Pairwise fun a b => a.1 < b.1

/-- The entries of the directory that a path of names leads to, if every step of it is a directory. -/
def entriesAt? : List String → Entries → Option Entries
  | [], entries => some entries
  | step :: path, entries => match entries.lookup step with
    | some (.directory inner) => entriesAt? path inner
    | _ => none

/-- Changes the entries of the directory that a path leads to. -/
def alterAt (change : Entries → Entries) : List String → Entries → Entries
  | [], entries => change entries
  | step :: path, entries => match entries.lookup step with
    | some (.directory inner) => insertEntry step (.directory (alterAt change path inner)) entries
    | _ => entries

theorem Throughout.here {P : Entries → Prop} {entries : Entries} (all : Throughout P entries) : P entries := by
  cases all
  assumption

theorem Throughout.inside {P : Entries → Prop} {entries inner : Entries} {name : String}
    (all : Throughout P entries) (member : (name, directory inner) ∈ entries) : Throughout P inner := by
  cases all with
  | intro _ below => exact below name inner member

theorem Throughout.both {P Q R : Entries → Prop} {entries : Entries} (first : Throughout P entries)
    (second : Throughout Q entries) (together : ∀ entries, P entries → Q entries → R entries) :
    Throughout R entries := by
  induction first with
  | intro here _ ih =>
    exact .intro (together _ here second.here) fun name inner member => ih name inner member (second.inside member)

/-- A path with a first step leads somewhere only through a directory of that name. -/
theorem entriesAt?_cons_eq_some {step : String} {path : List String} {entries found : Entries} :
    entriesAt? (step :: path) entries = some found ↔
      ∃ inner, entries.lookup step = some (.directory inner) ∧ entriesAt? path inner = some found := by
  rw [entriesAt?]
  split
  · rename_i inner atStep
    simp [atStep]
  · rename_i noDirectory
    simp only [reduceCtorEq, false_iff, not_exists, not_and]
    exact fun inner atStep => absurd atStep (noDirectory inner)

theorem entriesAt?_append (path more : List String) (entries : Entries) :
    entriesAt? (path ++ more) entries = (entriesAt? path entries).bind (entriesAt? more) := by
  induction path generalizing entries with
  | nil => rfl
  | cons step path ih =>
    rw [List.cons_append, entriesAt?, entriesAt?]
    split
    · exact ih _
    · rfl

theorem storeAt_eq_alterAt {name : String} {node : LayoutNode} {path : List String} {entries found : Entries}
    (leads : entriesAt? path entries = some found) :
    storeAt name node path entries = alterAt (store name node) path entries := by
  induction path generalizing entries with
  | nil => rfl
  | cons step path ih =>
    obtain ⟨inner, atStep, leads⟩ := entriesAt?_cons_eq_some.mp leads
    simp only [storeAt, alterAt, atStep, ih leads]

theorem entriesAt?_alterAt {change : Entries → Entries} {path : List String} {entries found : Entries}
    (leads : entriesAt? path entries = some found) : entriesAt? path (alterAt change path entries) = some (change found) := by
  induction path generalizing entries with
  | nil => exact congrArg (fun found => some (change found)) (Option.some.inj leads)
  | cons step path ih =>
    obtain ⟨inner, atStep, leads⟩ := entriesAt?_cons_eq_some.mp leads
    simp only [alterAt, atStep, entriesAt?, lookup_insertEntry_self, ih leads]

theorem alterAt_alterAt (change further : Entries → Entries) (path : List String) (entries : Entries) :
    alterAt further path (alterAt change path entries) = alterAt (further ∘ change) path entries := by
  induction path generalizing entries with
  | nil => rfl
  | cons step path ih =>
    cases atStep : entries.lookup step with
    | none => simp only [alterAt, atStep]
    | some node => cases node with
      | file => simp only [alterAt, atStep]
      | directory inner => simp only [alterAt, atStep, lookup_insertEntry_self, insertEntry_insertEntry, ih]

theorem alterAt_append (change : Entries → Entries) (path more : List String) (entries : Entries) :
    alterAt change (path ++ more) entries = alterAt (alterAt change more) path entries := by
  induction path generalizing entries with
  | nil => rfl
  | cons step path ih => simp only [List.cons_append, alterAt, ih]

/-- Only what a change does to the directory in question matters. -/
theorem alterAt_congr {change other : Entries → Entries} {path : List String} {entries found : Entries}
    (leads : entriesAt? path entries = some found) (same : change found = other found) :
    alterAt change path entries = alterAt other path entries := by
  induction path generalizing entries with
  | nil =>
    cases Option.some.inj leads
    exact same
  | cons step path ih =>
    obtain ⟨inner, atStep, leads⟩ := entriesAt?_cons_eq_some.mp leads
    simp only [alterAt, atStep, ih leads]

theorem Ordered.of_lookup {name : String} {entries inner : Entries} (ordered : Ordered entries)
    (there : entries.lookup name = some (.directory inner)) : Ordered inner :=
  ordered.inside (mem_of_lookup there)

theorem Throughout.insertEntry {P : Entries → Prop} {name : String} {node : LayoutNode} {entries : Entries}
    (all : Throughout P entries) (here : P (insertEntry name node entries))
    (inNode : ∀ inner, node = .directory inner → Throughout P inner) : Throughout P (insertEntry name node entries) := by
  refine .intro here fun other inner member => ?_
  rcases mem_insertEntry member with new | old
  · exact inNode inner (Prod.mk.inj new).2.symm
  · exact all.inside old

theorem Throughout.store {P : Entries → Prop} {name : String} {node : LayoutNode} {entries : Entries}
    (all : Throughout P entries) (adds : ∀ entries, P entries → P (NameMap.insertEntry name node entries))
    (inNode : ∀ inner, node = .directory inner → Throughout P inner) : Throughout P (store name node entries) := by
  unfold LayoutNode.store
  split
  · exact all
  · exact all.insertEntry (adds entries all.here) inNode

/-- What holds of every directory still does once a node is stored, if it survives a new entry and does not depend on
what the directories below hold. -/
theorem Throughout.storeAt {P : Entries → Prop} {name : String} {node : LayoutNode} (path : List String)
    {entries : Entries} (all : Throughout P entries)
    (adds : ∀ entries, P entries → P (NameMap.insertEntry name node entries))
    (changes : ∀ entries step inner changed, P entries → entries.lookup step = some (.directory inner) →
      P (NameMap.insertEntry step (.directory changed) entries))
    (inNode : ∀ inner, node = .directory inner → Throughout P inner) :
    Throughout P (storeAt name node path entries) := by
  induction path generalizing entries with
  | nil => exact all.store adds inNode
  | cons step path ih =>
    rw [LayoutNode.storeAt]
    split
    · rename_i inner atStep
      refine all.insertEntry (changes _ _ _ _ all.here atStep) fun changed same => ?_
      rw [← LayoutNode.directory.inj same]
      exact ih (all.inside (mem_of_lookup atStep))
    · exact ih all

/-- A change that changes nothing leaves the whole as it is. -/
theorem alterAt_eq_self {change : Entries → Entries} {path : List String} {entries found : Entries}
    (ordered : Ordered entries) (leads : entriesAt? path entries = some found) (same : change found = found) :
    alterAt change path entries = entries := by
  induction path generalizing entries with
  | nil =>
    cases Option.some.inj leads
    exact same
  | cons step path ih =>
    obtain ⟨inner, atStep, leads⟩ := entriesAt?_cons_eq_some.mp leads
    simp only [alterAt, atStep, ih (ordered.of_lookup atStep) leads]
    exact insertEntry_eq_self ordered.here atStep

theorem Ordered.entriesAt? {path : List String} {entries found : Entries} (ordered : Ordered entries)
    (leads : entriesAt? path entries = some found) : Ordered found := by
  induction path generalizing entries with
  | nil =>
    cases Option.some.inj leads
    exact ordered
  | cons step path ih =>
    obtain ⟨inner, atStep, leads⟩ := entriesAt?_cons_eq_some.mp leads
    exact ih (ordered.of_lookup atStep) leads

theorem store_of_fresh {name : String} {entries : Entries} (node : LayoutNode) (fresh : entries.lookup name = none) :
    store name node entries = insertEntry name node entries := by
  simp only [store, fresh]

end Plumbline.LayoutNode
