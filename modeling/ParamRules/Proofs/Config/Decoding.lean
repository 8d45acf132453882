import Mathlib
import ParamRules.Config.Decode
import ParamRules.Proofs.Attempt
import ParamRules.Proofs.Json.Writing
import ParamRules.Proofs.Occurrence

/-!
# Which JSON is a configuration

A configuration is read from an object with the members `enabled` and `rules` or from an array of
their values, and from nothing else: a member of another name, a repeated member and a value of the
wrong type are all refused (`Shaped`), so what is read is what was meant (`IsJson`). The order of
the members does not matter, and an object in which a configuration is written, with or without the
members that have their defaults, is read as this configuration (`Writes`).
-/

namespace ParamRules.Json.Value

/-- An array of texts. -/
def arrayOf (texts : List String) : Value :=
  .array (texts.map .string)

theorem bool?_eq_some_iff {json : Value} {on : Bool} :
    json.bool? = some on ↔ json = .bool on := by
  cases json <;> simp [bool?]

theorem string?_eq_some_iff {json : Value} {text : String} :
    json.string? = some text ↔ json = .string text := by
  cases json <;> simp [string?]

theorem strings?_eq_some_iff {json : Value} {texts : List String} :
    json.strings? = some texts ↔ json = arrayOf texts := by
  cases json with
  | array items =>
      simp only [strings?, arrayOf, Attempt.mapM_eq_some_iff, string?_eq_some_iff, array.injEq]
      rw [← List.forall₂_map_right_iff, List.forall₂_eq_eq_eq]
  | _ => simp [strings?, arrayOf]

end ParamRules.Json.Value

namespace ParamRules.Config

open Json.Value (arrayOf bool?_eq_some_iff strings?_eq_some_iff)

/-- A member of an object has a value, or it is missing and the value is the default one. -/
structure Gives {β : Type} (members : List (String × Json.Value)) (name : String)
    (encode : β → Json.Value) (default value : β) : Prop where
  present : ∀ json, (name, json) ∈ members → json = encode value
  missing : name ∉ members.map Prod.fst → value = default

/-- The members of an object that is a configuration. -/
structure Describes (members : List (String × Json.Value)) (config : Config) : Prop where
  known : ∀ member ∈ members, member.1 = "enabled" ∨ member.1 = "rules"
  distinct : (members.map Prod.fst).Nodup
  enabled : Gives members "enabled" .bool true config.enabled
  rules : Gives members "rules" arrayOf [] config.rules

/-- The JSON values that are a configuration. The items of an array are the members in order. -/
inductive IsJson (config : Config) : Json.Value → Prop where
  | object {members : List (String × Json.Value)} (describes : Describes members config) :
      IsJson config (.object members)
  | array {items : List Json.Value} (short : items.length ≤ 2)
      (describes : Describes (["enabled", "rules"].zip items) config) :
      IsJson config (.array items)

/-- The JSON values that a configuration can be read from. -/
inductive Shaped : Json.Value → Prop where
  | object {members : List (String × Json.Value)}
      (known : ∀ member ∈ members, member.1 = "enabled" ∨ member.1 = "rules")
      (distinct : (members.map Prod.fst).Nodup)
      (enabled : ∀ json, ("enabled", json) ∈ members → ∃ on, json = .bool on)
      (rules : ∀ json, ("rules", json) ∈ members → ∃ texts, json = arrayOf texts) :
      Shaped (.object members)
  | array {items : List Json.Value} (short : items.length ≤ 2)
      (enabled : ∀ json, items[0]? = some json → ∃ on, json = .bool on)
      (rules : ∀ json, items[1]? = some json → ∃ texts, json = arrayOf texts) :
      Shaped (.array items)

/-! ## Members -/

variable {members : List (String × Json.Value)} {config : Config}

/-- The value of a member, or the default if there is no such member. -/
def field? {β : Type} (members : List (String × Json.Value)) (name : String)
    (decode : Json.Value → Option β) (default : β) : Option β :=
  match members.lookup name with
  | some json => decode json
  | none => some default

theorem field?_eq_some_iff {β : Type} {decode : Json.Value → Option β} {encode : β → Json.Value}
    (decodes : ∀ {json value}, decode json = some value ↔ json = encode value)
    (distinct : (members.map Prod.fst).Nodup) {name : String} {default value : β} :
    field? members name decode default = some value ↔
      Gives members name encode default value := by
  rw [field?]
  cases found : members.lookup name with
  | none =>
      have absent : ∀ json, (name, json) ∉ members := by
        intro json mem
        rw [(Occurrence.lookup_eq_some_iff_mem distinct).2 mem] at found
        cases found
      have missing : name ∉ members.map Prod.fst := by simpa using absent
      constructor
      · rintro ⟨⟩
        exact ⟨fun json mem => absurd mem (absent json), fun _ => rfl⟩
      · intro gives
        rw [gives.missing missing]
  | some json =>
      have mem := (Occurrence.lookup_eq_some_iff_mem distinct).1 found
      have listed : name ∈ members.map Prod.fst := List.mem_map_of_mem mem
      simp only [decodes]
      constructor
      · rintro rfl
        refine ⟨fun other otherMem => ?_, fun missing => absurd listed missing⟩
        rw [← Occurrence.lookup_eq_some_iff_mem distinct, found, Option.some.injEq] at otherMem
        exact otherMem.symm
      · intro gives
        exact gives.present json mem

theorem ofMembers?_eq_ite :
    ofMembers? Json.Value.bool? Json.Value.strings? members =
      if (members.map Prod.fst).all ["enabled", "rules"].contains ∧
          (members.map Prod.fst).Nodup then
        (field? members "enabled" Json.Value.bool? true).bind fun enabled =>
          (field? members "rules" Json.Value.strings? []).bind fun rules => some { enabled, rules }
      else none := by
  simp only [ofMembers?, guard, field?]
  by_cases allKnown : (members.map Prod.fst).all ["enabled", "rules"].contains = true
  · by_cases distinct : (members.map Prod.fst).Nodup
    · rw [if_pos allKnown, if_pos distinct, if_pos ⟨allKnown, distinct⟩]
      cases members.lookup "enabled" <;> cases members.lookup "rules" <;> rfl
    · rw [if_neg (not_and_of_not_right _ distinct), if_pos allKnown, if_neg distinct]
      rfl
  · rw [if_neg (not_and_of_not_left _ allKnown), if_neg allKnown]
    rfl

theorem ofMembers?_eq_some_iff :
    ofMembers? Json.Value.bool? Json.Value.strings? members = some config ↔
      Describes members config := by
  have all_iff : (members.map Prod.fst).all ["enabled", "rules"].contains = true ↔
      ∀ member ∈ members, member.1 = "enabled" ∨ member.1 = "rules" := by
    simp
  simp only [ofMembers?_eq_ite, Option.ite_none_right_eq_some, Option.bind_eq_some_iff,
    Option.some.injEq, all_iff]
  constructor
  · rintro ⟨⟨known, distinct⟩, enabled, hasEnabled, rules, hasRules, rfl⟩
    exact {
      known
      distinct
      enabled := (field?_eq_some_iff bool?_eq_some_iff distinct).1 hasEnabled
      rules := (field?_eq_some_iff strings?_eq_some_iff distinct).1 hasRules }
  · intro describes
    have enabled := (field?_eq_some_iff bool?_eq_some_iff describes.distinct).2 describes.enabled
    have rules := (field?_eq_some_iff strings?_eq_some_iff describes.distinct).2 describes.rules
    exact ⟨⟨describes.known, describes.distinct⟩, _, enabled, _, rules, rfl⟩

theorem exists_gives_iff {β : Type} {encode : β → Json.Value}
    (distinct : (members.map Prod.fst).Nodup) (name : String) (default : β) :
    (∃ value, Gives members name encode default value) ↔
      ∀ json, (name, json) ∈ members → ∃ value, json = encode value := by
  constructor
  · rintro ⟨value, gives⟩ json mem
    exact ⟨value, gives.present json mem⟩
  · intro typed
    by_cases listed : name ∈ members.map Prod.fst
    · rcases List.mem_map.1 listed with ⟨⟨_, json⟩, mem, rfl⟩
      rcases typed json mem with ⟨value, rfl⟩
      refine ⟨value, fun other otherMem => ?_, fun missing => absurd listed missing⟩
      exact congrArg Prod.snd (List.inj_on_of_nodup_map distinct otherMem mem rfl)
    · have absent : ∀ json, (name, json) ∉ members := by simpa using listed
      exact ⟨default, fun json mem => absurd mem (absent json), fun _ => rfl⟩

theorem exists_describes_iff :
    (∃ config, Describes members config) ↔
      (∀ member ∈ members, member.1 = "enabled" ∨ member.1 = "rules") ∧
      (members.map Prod.fst).Nodup ∧
      (∀ json, ("enabled", json) ∈ members → ∃ on, json = .bool on) ∧
      ∀ json, ("rules", json) ∈ members → ∃ texts, json = arrayOf texts := by
  constructor
  · rintro ⟨config, describes⟩
    have distinct := describes.distinct
    exact ⟨describes.known, distinct,
      (exists_gives_iff distinct _ _).1 ⟨_, describes.enabled⟩,
      (exists_gives_iff distinct _ _).1 ⟨_, describes.rules⟩⟩
  · rintro ⟨known, distinct, enabledTyped, rulesTyped⟩
    rcases (exists_gives_iff distinct "enabled" true).2 enabledTyped with ⟨on, enabled⟩
    rcases (exists_gives_iff distinct "rules" []).2 rulesTyped with ⟨texts, rules⟩
    exact ⟨⟨on, texts⟩, known, distinct, enabled, rules⟩

theorem Gives.of_perm {β : Type} {name : String} {encode : β → Json.Value} {default value : β}
    {others : List (String × Json.Value)} (gives : Gives members name encode default value)
    (permuted : others.Perm members) : Gives others name encode default value where
  present := fun json mem => gives.present json (permuted.mem_iff.1 mem)
  missing := fun missing =>
    gives.missing fun listed => missing ((permuted.map Prod.fst).mem_iff.2 listed)

theorem Describes.of_perm {others : List (String × Json.Value)}
    (describes : Describes members config) (permuted : others.Perm members) :
    Describes others config where
  known := fun member mem => describes.known member (permuted.mem_iff.1 mem)
  distinct := (permuted.map Prod.fst).nodup_iff.2 describes.distinct
  enabled := describes.enabled.of_perm permuted
  rules := describes.rules.of_perm permuted

/-! ## Arrays -/

theorem ofJson?_array (items : List Json.Value) :
    ofJson? (.array items) =
      if items.length ≤ 2 then
        ofMembers? Json.Value.bool? Json.Value.strings? (["enabled", "rules"].zip items)
      else none := by
  match items with
  | [] => rfl
  | [_] => rfl
  | [_, _] => rfl
  | _ :: _ :: _ :: _ => rfl

theorem mem_zip_enabled_iff {items : List Json.Value} {json : Json.Value} :
    ("enabled", json) ∈ ["enabled", "rules"].zip items ↔ items[0]? = some json := by
  rcases items with _ | ⟨enabled, _ | ⟨rules, rest⟩⟩ <;> simp [eq_comm]

theorem mem_zip_rules_iff {items : List Json.Value} {json : Json.Value} :
    ("rules", json) ∈ ["enabled", "rules"].zip items ↔ items[1]? = some json := by
  rcases items with _ | ⟨enabled, _ | ⟨rules, rest⟩⟩ <;> simp [eq_comm]

theorem known_zip {items : List Json.Value} :
    ∀ member ∈ ["enabled", "rules"].zip items, member.1 = "enabled" ∨ member.1 = "rules" := by
  intro member mem
  simpa using (List.of_mem_zip mem).1

theorem distinct_zip (items : List Json.Value) :
    ((["enabled", "rules"].zip items).map Prod.fst).Nodup := by
  rcases items with _ | ⟨enabled, _ | ⟨rules, rest⟩⟩ <;> simp

/-! ## All of JSON -/

theorem ofJson?_object_of_perm {others : List (String × Json.Value)}
    (permuted : members.Perm others) :
    ofJson? (.object members) = ofJson? (.object others) := by
  refine Option.ext fun config => ?_
  change ofMembers? _ _ members = some config ↔ ofMembers? _ _ others = some config
  rw [ofMembers?_eq_some_iff, ofMembers?_eq_some_iff]
  exact ⟨fun describes => describes.of_perm permuted.symm,
    fun describes => describes.of_perm permuted⟩

theorem ofJson?_eq_some_iff {json : Json.Value} :
    ofJson? json = some config ↔ IsJson config json := by
  constructor
  · intro read
    cases json with
    | object members => exact .object (ofMembers?_eq_some_iff.1 read)
    | array items =>
        rw [ofJson?_array, Option.ite_none_right_eq_some] at read
        exact .array read.1 (ofMembers?_eq_some_iff.1 read.2)
    | _ => cases read
  · rintro (describes | ⟨short, describes⟩)
    · exact ofMembers?_eq_some_iff.2 describes
    · rw [ofJson?_array, if_pos short]
      exact ofMembers?_eq_some_iff.2 describes

theorem exists_isJson_iff {json : Json.Value} : (∃ config, IsJson config json) ↔ Shaped json := by
  constructor
  · rintro ⟨config, describes | ⟨short, describes⟩⟩
    · rcases exists_describes_iff.1 ⟨config, describes⟩ with ⟨known, distinct, enabled, rules⟩
      exact .object known distinct enabled rules
    · rcases exists_describes_iff.1 ⟨config, describes⟩ with ⟨_, _, enabled, rules⟩
      exact .array short (fun json first => enabled json (mem_zip_enabled_iff.2 first))
        fun json second => rules json (mem_zip_rules_iff.2 second)
  · rintro (⟨known, distinct, enabled, rules⟩ | ⟨short, enabled, rules⟩)
    · rcases exists_describes_iff.2 ⟨known, distinct, enabled, rules⟩ with ⟨config, describes⟩
      exact ⟨config, .object describes⟩
    · have typed := And.intro (fun json mem => enabled json (mem_zip_enabled_iff.1 mem))
        fun json mem => rules json (mem_zip_rules_iff.1 mem)
      rcases exists_describes_iff.2 ⟨known_zip, distinct_zip _, typed⟩ with ⟨config, describes⟩
      exact ⟨config, .array short describes⟩

/-! ## Written configurations -/

/-- A member as it is written: with its value, or not at all where the value is the default. -/
inductive WritesMember {β : Type} (name : String) (encode : β → Json.Value) (default value : β) :
    List (String × Json.Value) → Prop where
  | written : WritesMember name encode default value [(name, encode value)]
  | leftOut (isDefault : value = default) : WritesMember name encode default value []

/-- The members of an object in which a configuration is written, in either order. -/
inductive Writes (config : Config) : List (String × Json.Value) → Prop where
  | members {enabled rules members : List (String × Json.Value)}
      (writesEnabled : WritesMember "enabled" .bool true config.enabled enabled)
      (writesRules : WritesMember "rules" arrayOf [] config.rules rules)
      (order : members.Perm (enabled ++ rules)) : Writes config members

theorem Writes.describes (writes : Writes config members) : Describes members config := by
  rcases writes with ⟨writesEnabled, writesRules, order⟩
  refine Describes.of_perm ?_ order
  rcases writesEnabled with _ | onByDefault
  all_goals rcases writesRules with _ | noneByDefault
  all_goals exact {
    known := by simp
    distinct := by simp
    enabled := ⟨by simp, by simp [*]⟩
    rules := ⟨by simp, by simp [*]⟩ }

theorem Writes.wellSpelled (writes : Writes config members) :
    Json.WellSpelled (.object members) := by
  have arraySpelled : Json.WellSpelled (arrayOf config.rules) := by
    simp [arrayOf, Json.WellSpelled, Json.allWellSpelled_iff]
  rcases writes with ⟨writesEnabled, writesRules, order⟩
  rw [Json.WellSpelled, Json.membersWellSpelled_iff]
  intro member mem
  rcases List.mem_append.1 (order.mem_iff.1 mem) with inEnabled | inRules
  · cases writesEnabled <;> simp_all [Json.WellSpelled]
  · cases writesRules <;> simp_all

/-- JSON is accepted as a configuration exactly where it has the shape of one, and gives the values
that stand in it and the defaults for those that do not, in whatever order it gives them. A
configuration is read from every object in which it is written, and from the text of the object. -/
theorem configurations_are_read_strictly :
    (∀ json, (∃ config, ofJson? json = some config) ↔ Shaped json) ∧
    (∀ json config, ofJson? json = some config ↔ IsJson config json) ∧
    (∀ members others, members.Perm others →
      ofJson? (.object members) = ofJson? (.object others)) ∧
    (∀ text config, readJson? text = some config ↔
      ∃ json, Json.IsDocument text.toList json ∧ IsJson config json) ∧
    ∀ config members, Writes config members →
      ofJson? (.object members) = some config ∧
      readJson? (Json.Value.object members).write = some config := by
  refine ⟨?_, fun _ _ => ofJson?_eq_some_iff, fun _ _ => ofJson?_object_of_perm, ?_, ?_⟩
  · intro json
    simp only [ofJson?_eq_some_iff, exists_isJson_iff]
  · intro text config
    simp only [readJson?, Option.bind_eq_bind, Option.bind_eq_some_iff, Json.read?_eq_some_iff,
      ofJson?_eq_some_iff]
  · intro config members writes
    have read : ofJson? (.object members) = some config :=
      ofJson?_eq_some_iff.2 (.object writes.describes)
    refine ⟨read, ?_⟩
    rw [readJson?, Json.read?_write writes.wellSpelled]
    exact read

/-- A configuration that is on is read back from its rules alone; one that is off may be written
with its rules first. -/
theorem configurations_are_read_strictly_of_rows :
    Writes { rules := ["rows=>100:100"] } [("rules", arrayOf ["rows=>100:100"])] ∧
      readJson? (Json.Value.object [("rules", arrayOf ["rows=>100:100"])]).write =
        some { rules := ["rows=>100:100"] } ∧
      ofJson? (.object [("rules", arrayOf ["rows=1"]), ("enabled", .bool false)]) =
        ofJson? (.object [("enabled", .bool false), ("rules", arrayOf ["rows=1"])]) := by
  rcases configurations_are_read_strictly with ⟨_, _, anyOrder, _, reads⟩
  have writes : Writes { rules := ["rows=>100:100"] } [("rules", arrayOf ["rows=>100:100"])] :=
    .members (.leftOut rfl) .written (.refl _)
  exact ⟨writes, (reads _ _ writes).2, anyOrder _ _ (.swap _ _ _)⟩

example : ofJson? (.object [("rulez", arrayOf [])]) = none := rfl

example : ofJson? (.object [("enabled", .null)]) = none := rfl

end ParamRules.Config
