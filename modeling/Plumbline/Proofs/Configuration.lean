import Plumbline.Proofs.Double
import Plumbline.Proofs.Findings
import Plumbline.Proofs.NameMap

namespace Plumbline

/-- A float stands somewhere in a value. -/
inductive Json.Holds (x : Float) : Json → Prop where
  | here : Holds x (.float x)
  | item {items : List Json} {v : Json} (member : v ∈ items) (inside : Holds x v) : Holds x (.array items)
  | member {members : List (String × Json)} {key : String} {v : Json} (member : (key, v) ∈ members)
      (inside : Holds x v) : Holds x (.object members)

/-- A float stands somewhere in a TOML value. -/
inductive Toml.Holds (x : Float) : Toml → Prop where
  | here : Holds x (.float x)
  | item {items : List Toml} {v : Toml} (member : v ∈ items) (inside : Holds x v) : Holds x (.array items)
  | entry {entries : List (String × Toml)} {key : String} {v : Toml} (member : (key, v) ∈ entries)
      (inside : Holds x v) : Holds x (.table entries)

namespace Toml

theorem itemsToJson_eq_map (items : List Toml) : itemsToJson items = items.map toJson := by
  induction items with
  | nil => rfl
  | cons v rest ih => rw [itemsToJson, ih, List.map_cons]

theorem entriesToJson_eq_map (entries : List (String × Toml)) :
    entriesToJson entries = entries.map fun (key, v) => (key, v.toJson) := by
  induction entries with
  | nil => rfl
  | cons entry rest ih => rw [entriesToJson, ih, List.map_cons]

/-- Turning a value into JSON's terms makes no floats. -/
theorem holds_of_toJson {x : Float} {json : Json} (holds : json.Holds x) :
    ∀ v : Toml, v.toJson = json → v.Holds x := by
  induction holds with
  | here =>
    intro v same
    cases v with
    | float y =>
      obtain rfl : y = x := by simpa [toJson, Json.float] using same
      exact .here
    | integer n =>
      simp only [toJson, Json.float, Json.number.injEq] at same
      split at same <;> contradiction
    | _ => simp [toJson, Json.float] at same
  | @item items w member inside ih =>
    intro v same
    cases v with
    | array values =>
      obtain rfl : itemsToJson values = items := by simpa [toJson] using same
      rw [itemsToJson_eq_map, List.mem_map] at member
      obtain ⟨u, within, turned⟩ := member
      exact .item within (ih u turned)
    | _ => simp [toJson, Json.float] at same
  | @member members key w member inside ih =>
    intro v same
    cases v with
    | table entries =>
      obtain rfl : entriesToJson entries = members := by simpa [toJson] using same
      rw [entriesToJson_eq_map, List.mem_map] at member
      obtain ⟨⟨name, u⟩, within, turned⟩ := member
      exact .entry within (ih u (Prod.mk.inj turned).2)
    | moment =>
      obtain rfl : [(momentKey, Json.string "")] = members := by simpa [toJson] using same
      obtain ⟨_, rfl⟩ : key = momentKey ∧ w = .string "" := by simpa using member
      cases inside
    | _ => simp [toJson, Json.float] at same

end Toml

namespace Json

/-- What a list is mapped to comes from its items. -/
theorem exists_of_mem_mapM {α β : Type} {read : α → Option β} {items : List α} {results : List β} {b : β}
    (mapped : items.mapM read = some results) (member : b ∈ results) : ∃ a ∈ items, read a = some b := by
  induction items generalizing results with
  | nil =>
    obtain rfl : [] = results := by simpa using mapped
    exact absurd member List.not_mem_nil
  | cons a rest ih =>
    simp only [List.mapM_cons, Option.pure_def, Option.bind_eq_bind, Option.bind_eq_some_iff] at mapped
    obtain ⟨first, read, others, mapped, made⟩ := mapped
    obtain rfl := Option.some.inj made
    rcases List.mem_cons.mp member with rfl | later
    · exact ⟨a, List.mem_cons_self, read⟩
    · obtain ⟨c, within, read⟩ := ih mapped later
      exact ⟨c, List.mem_cons_of_mem a within, read⟩

variable {manner : Manner} {keys : List String} {v w : Json} {slots : List Slot} {x : Float}

/-- What stands in a field of a record stands in the record. -/
theorem holds_of_recordIn? (record : v.recordIn? manner keys = some slots) (present : .present w ∈ slots)
    (inside : w.Holds x) : v.Holds x := by
  cases v with
  | object members =>
    obtain ⟨key, _, read⟩ := exists_of_mem_mapM record present
    split at read
    · cases read
    · rename_i name u found
      obtain rfl : u = w := by simpa using read
      have within : (name, u) ∈ members.filter (·.1 == key) := found ▸ List.mem_singleton_self _
      exact .member (List.mem_of_mem_filter within) inside
    · cases read
  | array items =>
    simp only [recordIn?] at record
    split at record
    · cases record
    · obtain rfl := Option.some.inj record
      have within : .present w ∈ (items.take keys.length).map Slot.present := by simpa using present
      obtain ⟨u, taken, same⟩ := List.mem_map.mp within
      exact .item (List.mem_of_mem_take taken) (Slot.present.inj same ▸ inside)
  | _ => cases record

/-- Only a float that is not a number reads as one. -/
theorem holds_of_double? (read : v.double? = some x) (nan : x.isNaN = true) : v.Holds x := by
  have number {n : UInt64} (same : n.toFloat = x ∨ -n.toFloat = x) : False := by
    rcases same with rfl | rfl
    · exact Bool.false_ne_true ((Scale.isNaN_toFloat n).symm.trans nan)
    · exact Bool.false_ne_true ((Scale.isNaN_neg (Scale.isNaN_toFloat n)).symm.trans nan)
  unfold double? at read
  split at read
  · exact (number (.inl (Option.some.inj read))).elim
  · exact (number (.inr (Option.some.inj read))).elim
  · obtain rfl := Option.some.inj read
    exact .here
  · cases read

/-- A field that is not a number stands in the record, unless it does so by default. -/
theorem holds_of_withDefault {slot : Slot} {fallback : Float} (record : v.recordIn? manner keys = some slots)
    (member : slot ∈ slots) (read : slot.withDefault double? fallback = some x) (number : fallback.isNaN = false)
    (nan : x.isNaN = true) : v.Holds x := by
  cases slot with
  | present w => exact holds_of_recordIn? record member (holds_of_double? read nan)
  | _ =>
    obtain rfl := Option.some.inj read
    rw [nan] at number
    contradiction

end Json

section Capped

variable {x : Float}

/-- A profile whose cap is not a number was read from a value that holds it. -/
theorem Profile.holds_cap {manner : Json.Manner} {v : Json} {profile : Profile Float}
    (read : read? manner v = some profile) (nan : profile.maxPenaltyFactor.isNaN = true) :
    v.Holds profile.maxPenaltyFactor := by
  simp only [read?, Option.bind_eq_bind, Option.bind_eq_some_iff] at read
  obtain ⟨slots, record, read⟩ := read
  split at read
  · simp only [Option.bind_eq_some_iff] at read
    obtain ⟨_, _, _, _, cap, atCap, _, _, _, _, _, _, made⟩ := read
    obtain rfl := Option.some.inj made
    exact Json.holds_of_withDefault record (by simp) atCap (by decide) nan
  · cases read

theorem Json.holds_of_table? {α : Type} {read : Json → Option α} {v : Json} {m : NameMap α} {entry : String × α}
    (table : v.table? read = some m) (member : entry ∈ m.entries) :
    ∃ w, read w = some entry.2 ∧ (w.Holds x → v.Holds x) := by
  unfold table? at table
  split at table
  · rename_i members
    obtain ⟨pairs, mapped, rfl⟩ := Option.map_eq_some_iff.mp table
    obtain ⟨⟨key, w⟩, within, made⟩ := exists_of_mem_mapM mapped (NameMap.mem_entries_ofList member)
    obtain ⟨a, read, rfl⟩ := Option.map_eq_some_iff.mp made
    exact ⟨w, read, .member within⟩
  · cases table

namespace Configuration

theorem isNaN_builtin : ∀ entry ∈ (Profile.builtin : NameMap (Profile Float)).entries,
    entry.2.maxPenaltyFactor.isNaN = false := by decide +kernel

theorem mem_profiles_withBuiltin {configuration : Configuration Float} {entry : String × Profile Float}
    (member : entry ∈ configuration.withBuiltin.profiles.entries) :
    entry ∈ configuration.profiles.entries ∨ entry ∈ (Profile.builtin : NameMap (Profile Float)).entries := by
  have added (others : List (String × Profile Float)) (m : NameMap (Profile Float))
      (member : entry ∈ (others.foldl (fun m other => m.insertNew other.1 other.2) m).entries) :
      entry ∈ m.entries ∨ entry ∈ others := by
    induction others generalizing m with
    | nil => exact .inl member
    | cons other rest ih =>
      rcases ih (m.insertNew other.1 other.2) member with before | later
      · exact (NameMap.mem_entries_insertNew before).elim (fun new => .inr (new ▸ List.mem_cons_self)) .inl
      · exact .inr (List.mem_cons_of_mem other later)
  exact added Profile.builtin.entries configuration.profiles member

/-- A cap that is not a number stands in the value that a configuration was read from. -/
theorem holds_cap_of_ofValue? {v : Json} {configuration : Configuration Float} {entry : String × Profile Float}
    (read : ofValue? v = some configuration) (member : entry ∈ configuration.profiles.entries)
    (nan : entry.2.maxPenaltyFactor.isNaN = true) : v.Holds entry.2.maxPenaltyFactor := by
  simp only [ofValue?, Option.bind_eq_bind, Option.bind_eq_some_iff] at read
  obtain ⟨slots, record, read⟩ := read
  split at read
  · rename_i active profiles ignored mandatory tolerance severity category
    simp only [Option.bind_eq_some_iff] at read
    obtain ⟨_, _, table, atProfiles, _, _, _, _, _, _, _, _, _, _, made⟩ := read
    obtain rfl := Option.some.inj made
    cases profiles with
    | present w =>
      obtain ⟨u, readProfile, outward⟩ := Json.holds_of_table? atProfiles member
      exact Json.holds_of_recordIn? record (by simp) (outward (Profile.holds_cap readProfile nan))
    | _ =>
      obtain rfl := Option.some.inj atProfiles
      exact absurd nan (Bool.eq_false_iff.mp (isNaN_builtin entry member))
  · cases read

/-- A configuration has no cap that is not a number unless its text spells one. -/
theorem holds_cap_of_ofToml? {text : String} {configuration : Configuration Float} {entry : String × Profile Float}
    (accepted : ofToml? text = some configuration) (member : entry ∈ configuration.profiles.entries)
    (nan : entry.2.maxPenaltyFactor.isNaN = true) :
    ∃ v, Toml.parse text = some v ∧ v.Holds entry.2.maxPenaltyFactor := by
  obtain ⟨given, read, rfl⟩ := Option.map_eq_some_iff.mp accepted
  obtain ⟨v, parsed, read⟩ := Option.bind_eq_some_iff.mp read
  rcases mem_profiles_withBuiltin member with own | builtin
  · exact ⟨v, parsed, Toml.holds_of_toJson (holds_cap_of_ofValue? read own nan) v rfl⟩
  · exact absurd nan (Bool.eq_false_iff.mp (isNaN_builtin entry builtin))

end Configuration

end Capped

namespace Setting

/-- The profile of a setting is one of its configuration. -/
theorem mem_profiles_of_make {α : Type} {site : Site} {configuration : Configuration α} {name : Option String}
    {setting : Setting α} (made : make site configuration name = .ok setting) :
    (setting.profileName, setting.profile) ∈ configuration.profiles.entries := by
  unfold make Configuration.profile at made
  dsimp only at made
  split at made
  · rename_i profile found
    obtain rfl := Except.ok.inj made
    exact NameMap.mem_of_lookup found
  · cases made

/-- Under a configuration read from a text a run has an outcome, unless a rule fails under a cap that the text spells
as not a number. -/
theorem validate?_of_ofToml? {text : String} {configuration : Configuration Float} {name : Option String} {site : Site}
    {setting : Setting Float} (accepted : Configuration.ofToml? text = some configuration)
    (made : make site configuration name = .ok setting) (manifest : Manifest Float) :
    ((setting.validate? manifest).isSome = true ↔
      (∀ rule ∈ setting.executed (Registry.link manifest.rules).rules, setting.passes rule = true) ∨
        setting.profile.maxPenaltyFactor.isNaN = false) ∧
    (setting.profile.maxPenaltyFactor.isNaN = true →
      ∃ v, Toml.parse text = some v ∧ v.Holds setting.profile.maxPenaltyFactor) := by
  have member := mem_profiles_of_make made
  exact ⟨isSome_run?_iff, fun nan => Configuration.holds_cap_of_ofToml? accepted member nan⟩

/-- What a run of texts comes to in an empty directory. -/
def hasOutcome? (text source : String) (name : Option String) : Option Bool := do
  let configuration ← Configuration.ofToml? text
  let manifest ← (Manifest.read source).toOption
  let setting ← (make ⟨⟨.directory [], []⟩, "."⟩ configuration name).toOption
  return (setting.validate? manifest).isSome

/-- A profile whose cap is not a number. -/
def nanText : String := "[profiles.team]\nmax_penalty_factor = nan\n"

/-- A manifest of one rule, which breaks off everywhere. -/
def brokenSource : String :=
  "\x7b\"format\":\"agv-validator/1\",\"name\":\"\",\"description\":\"\",\"phase\":\"\",\"generated_at\":\"\",\"rules\":[" ++
  "\x7b\"name\":\"a\",\"description\":\"\",\"severity\":\"LOW\",\"category\":\"STRUCTURE\",\"check\":" ++
  "\x7b\"kind\":\"file_patterns\",\"patterns\":[\"[\"],\"issue_type\":\"a\",\"severity\":\"LOW\"\x7d\x7d]\x7d"

theorem parse_of_toList {text : String} {s : List Char} (same : text.toList = s) :
    Json.parse text = (Json.readValue (2 * s.length + 2) 0 s).bind fun (v, rest) =>
      if (Json.skipSpace rest).isEmpty then some v else none := by
  rw [← same, String.length_toList]
  rfl

theorem toList_append_append {a b c : String} {s t u : List Char} (first : a.toList = s) (second : b.toList = t)
    (third : c.toList = u) : (a ++ b ++ c).toList = s ++ t ++ u := by
  rw [String.toList_append, String.toList_append, first, second, third]

theorem exists_of_hasOutcome? {text source : String} {name : Option String} {has : Bool}
    (ran : hasOutcome? text source name = some has) :
    ∃ configuration manifest site setting, Configuration.ofToml? text = some configuration ∧
      Manifest.read source = .ok manifest ∧ make site configuration name = .ok setting ∧
      (setting.validate? manifest).isSome = has := by
  have returned {ε α : Type} {result : Except ε α} {a : α} (here : result.toOption = some a) : result = .ok a := by
    cases result with
    | ok b => rw [Option.some.inj here]
    | error e => cases here
  simp only [hasOutcome?, Option.bind_eq_bind, Option.bind_eq_some_iff] at ran
  obtain ⟨configuration, accepted, manifest, read, setting, made, outcome⟩ := ran
  exact ⟨configuration, manifest, _, setting, accepted, returned read, returned made, Option.some.inj outcome⟩

-- The characters of a long literal are told by the list it is made of; reading them back from its bytes takes much longer.
set_option maxRecDepth 1000 in
theorem hasOutcome?_nanText : hasOutcome? nanText brokenSource (some "team") = some false := by
  have parsed : Json.parse brokenSource = _ :=
    parse_of_toList (toList_append_append String.toList_ofList String.toList_ofList String.toList_ofList)
  rw [hasOutcome?, Manifest.read, parsed]
  decide +kernel

/-- An accepted configuration can leave a run without an outcome. -/
theorem nan_cap_ends_run :
    ¬ ∀ (text source : String) (name : Option String) (site : Site) (configuration : Configuration Float)
      (manifest : Manifest Float) (setting : Setting Float), Configuration.ofToml? text = some configuration →
      Manifest.read source = .ok manifest → make site configuration name = .ok setting →
      (setting.validate? manifest).isSome = true := by
  intro always
  obtain ⟨configuration, manifest, site, setting, accepted, read, made, outcome⟩ :=
    exists_of_hasOutcome? hasOutcome?_nanText
  exact absurd ((always _ _ _ _ _ _ _ accepted read made).symm.trans outcome) (by decide)

/-- The text of that configuration, where a rule does fail and the cap stands in the text. -/
theorem validate?_of_nanText :
    ∃ (configuration : Configuration Float) (manifest : Manifest Float) (site : Site) (setting : Setting Float),
      Configuration.ofToml? nanText = some configuration ∧ make site configuration (some "team") = .ok setting ∧
      (¬ ∀ rule ∈ setting.executed (Registry.link manifest.rules).rules, setting.passes rule = true) ∧
      ∃ v, Toml.parse nanText = some v ∧ v.Holds setting.profile.maxPenaltyFactor := by
  obtain ⟨configuration, manifest, site, setting, accepted, _, made, outcome⟩ :=
    exists_of_hasOutcome? hasOutcome?_nanText
  obtain ⟨returns, spelt⟩ := validate?_of_ofToml? accepted made manifest
  have lost : ¬(setting.validate? manifest).isSome = true := Bool.eq_false_iff.mp outcome
  obtain ⟨fails, nan⟩ := not_or.mp (mt returns.mpr lost)
  exact ⟨configuration, manifest, site, setting, accepted, made, fails, spelt (Bool.not_eq_false _ |>.mp nan)⟩

end Setting

end Plumbline
