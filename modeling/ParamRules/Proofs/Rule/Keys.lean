import ParamRules.Proofs.Rule.Grammar
import ParamRules.Proofs.Rule.Pushing

/-!
# Conditions that share a key

Entries with the same condition have the same key, but not the other way round: a condition that
asks for the text `default` has the key of the default condition. Such a condition is `Misnamed`,
because its key names another one. Two conditions with one key differ exactly when one of them is misnamed
and the other is not (`eq_iff_of_key_eq`). Conditions that are read from keys are never misnamed, so
among them, and in the rules built from them, the key alone tells the condition.
-/

namespace ParamRules

namespace Condition

/-- A condition that asks for a text which is the key of another condition. -/
inductive Misnamed : Condition → Prop where
  | invariant : Misnamed (.equals "invariant")
  | default : Misnamed (.equals "default")
  | threshold (direction : Direction) (bound : String) :
      Misnamed (.equals (Condition.threshold direction bound).key)

theorem key_threshold (direction : Direction) (bound : String) :
    (threshold direction bound).key = String.singleton direction.sign ++ bound := by
  rw [← String.toList_inj]
  simp [key]

theorem ofKey_key_threshold (direction : Direction) (bound : String) :
    ofKey (threshold direction bound).key = threshold direction bound := by
  rw [key_threshold, ofKey_sign]

theorem Named.misnamed_or_eq {text : String} {condition : Condition}
    (named : Named text condition) :
    (Condition.equals text).Misnamed ∨ condition = .equals text := by
  cases named with
  | invariant => exact .inl .invariant
  | default => exact .inl .default
  | atLeast bound =>
      have misnamed := Misnamed.threshold .atLeast bound
      rw [key_threshold] at misnamed
      exact .inl misnamed
  | atMost bound =>
      have misnamed := Misnamed.threshold .atMost bound
      rw [key_threshold] at misnamed
      exact .inl misnamed
  | equals => exact .inr rfl

/-- The key of a misnamed condition does not stand for it, and the key of any other one does. -/
theorem misnamed_iff {condition : Condition} :
    condition.Misnamed ↔ ofKey condition.key ≠ condition := by
  constructor
  · rintro (_ | _ | ⟨direction, bound⟩)
    · decide
    · decide
    · change ofKey (threshold direction bound).key ≠ _
      rw [ofKey_key_threshold]
      exact Condition.noConfusion
  · intro different
    cases condition with
    | invariant => exact absurd rfl different
    | default => exact absurd rfl different
    | threshold direction bound => exact absurd (ofKey_key_threshold direction bound) different
    | equals text => exact (named_ofKey text).misnamed_or_eq.resolve_right different

theorem not_misnamed_ofKey (key : String) : ¬(ofKey key).Misnamed := by
  rw [misnamed_iff, not_not, key_ofKey]

theorem Misnamed.eq_equals {condition : Condition} (misnamed : condition.Misnamed) :
    condition = .equals condition.key := by
  cases misnamed <;> rfl

theorem eq_iff_of_key_eq {left right : Condition} (sameKey : left.key = right.key) :
    left = right ↔ (left.Misnamed ↔ right.Misnamed) := by
  constructor
  · rintro rfl
    rfl
  · intro alike
    by_cases misnamed : left.Misnamed
    · rw [misnamed.eq_equals, (alike.1 misnamed).eq_equals, sameKey]
    · have leftNamed := not_not.1 (misnamed_iff.not.1 misnamed)
      have rightNamed := not_not.1 (misnamed_iff.not.1 (alike.not.1 misnamed))
      rw [← leftNamed, sameKey, rightNamed]

end Condition

namespace Entry

variable {left right : Entry}

theorem sameCondition_iff_of_key_eq (sameKey : left.key = right.key) :
    left.sameCondition right = true ↔ (left.condition.Misnamed ↔ right.condition.Misnamed) := by
  rw [sameCondition_iff, Condition.eq_iff_of_key_eq sameKey]

theorem key_eq_of_sameCondition (same : left.sameCondition right = true) : left.key = right.key :=
  congrArg Condition.key (sameCondition_iff.1 same)

end Entry

namespace Rule

theorem nodup_keys_iff (rule : Rule) :
    (rule.entries.map Entry.key).Nodup ↔
      ∀ left ∈ rule.conditions, ∀ right ∈ rule.conditions,
        left.key = right.key → (left.Misnamed ↔ right.Misnamed) := by
  have keys : rule.entries.map Entry.key = rule.conditions.map Condition.key := by
    rw [conditions, List.map_map]
    rfl
  have distinct : rule.conditions.Nodup := rule.distinct
  rw [keys, List.nodup_map_iff_inj_on distinct]
  refine forall₂_congr fun left _ => forall₂_congr fun right _ => forall_congr' fun sameKey => ?_
  exact Condition.eq_iff_of_key_eq sameKey

/-- The key tells whether two entries have the same condition unless one of them is misnamed and the
other is not. So a rule built from some entries has one entry for each key exactly when they never
have a key in common in that way, which entries that are read from keys never do. -/
theorem key_tells_condition {given : List Entry} {rule : Rule} (built : Built given rule) :
    (∀ left right : Entry,
      (left.sameCondition right = true ↔ left.key = right.key) ↔
        (left.key = right.key → (left.condition.Misnamed ↔ right.condition.Misnamed))) ∧
    ((rule.entries.map Entry.key).Nodup ↔
      ∀ left ∈ given, ∀ right ∈ given, left.key = right.key →
        (left.condition.Misnamed ↔ right.condition.Misnamed)) ∧
    ∀ key replacement, ¬(Entry.ofKey key replacement).condition.Misnamed := by
  refine ⟨?_, ?_, fun key _ => Condition.not_misnamed_ofKey key⟩
  · intro left right
    constructor
    · intro told sameKey
      exact (Entry.sameCondition_iff_of_key_eq sameKey).1 (told.2 sameKey)
    · intro alike
      exact ⟨Entry.key_eq_of_sameCondition, fun sameKey =>
        (Entry.sameCondition_iff_of_key_eq sameKey).2 (alike sameKey)⟩
  · rw [built.eq_ofEntries, nodup_keys_iff]
    simp only [mem_conditions_ofEntries_iff, forall_exists_index, and_imp,
      forall_apply_eq_imp_iff₂]
    rfl

/-- Read from keys, `default` and `>10` stay apart from each other and one `a` replaces the other. -/
theorem key_tells_condition_of_rows :
    (ofEntries [.ofKey "default" "0", .ofKey ">10" "10", .ofKey "a" "1", .ofKey "a" "2"]).entries.map
      Entry.key = ["default", ">10", "a"] ∧
    ((ofEntries [.ofKey "default" "0", .ofKey ">10" "10", .ofKey "a" "1",
      .ofKey "a" "2"]).entries.map Entry.key).Nodup := by
  have told := key_tells_condition (.collect [.ofKey "default" "0", .ofKey ">10" "10",
    .ofKey "a" "1", .ofKey "a" "2"])
  have named : ∀ entry ∈ [Entry.ofKey "default" "0", .ofKey ">10" "10", .ofKey "a" "1",
      .ofKey "a" "2"], ¬entry.condition.Misnamed := by
    simp [told.2.2]
  refine ⟨by decide, told.2.1.2 ?_⟩
  intro left leftMem right rightMem _
  exact iff_of_false (named left leftMem) (named right rightMem)

/-- The default entry and an entry for the text `default` are two entries with one key. -/
theorem default_shares_key :
    (⟨.default, "1"⟩ : Entry).key = (⟨.equals "default", "2"⟩ : Entry).key ∧
      Entry.sameCondition ⟨.default, "1"⟩ ⟨.equals "default", "2"⟩ = false ∧
      Built [⟨.default, "1"⟩, ⟨.equals "default", "2"⟩]
        (ofEntries [⟨.default, "1"⟩, ⟨.equals "default", "2"⟩]) ∧
      ¬((ofEntries [⟨.default, "1"⟩, ⟨.equals "default", "2"⟩]).entries.map Entry.key).Nodup :=
  ⟨rfl, rfl, .collect _, by decide⟩

end Rule

end ParamRules
