import ParamRules.Proofs.Text
import ParamRules.Request.Source

/-!
# Switches and layers

A switch understands six words, three for each state, in all their spellings, and any other value of
it is a failure. An overlay replaces the first value of the names that it knows and no other first
value.
-/

namespace ParamRules

/-- A value that turns a switch on. -/
def SwitchesOn (value : String) : Prop :=
  ∃ word ∈ ["true", "on", "yes"], Text.Spells value word

/-- A value that turns a switch off. -/
def SwitchesOff (value : String) : Prop :=
  ∃ word ∈ ["false", "off", "no"], Text.Spells value word

theorem exists_spells_iff {words : List String} {value : String}
    (small : ∀ word ∈ words, ∀ letter ∈ word.toList, letter.isLower = true) :
    (∃ word ∈ words, Text.Spells value word) ↔ Text.lowerAscii value ∈ words := by
  constructor
  · rintro ⟨word, mem, spells⟩
    rw [(Text.lowerAscii_eq_iff (small word mem)).2 spells]
    exact mem
  · intro mem
    exact ⟨_, mem, (Text.lowerAscii_eq_iff (small _ mem)).1 rfl⟩

theorem switchesOn_iff {value : String} :
    SwitchesOn value ↔ Text.lowerAscii value ∈ ["true", "on", "yes"] :=
  exists_spells_iff (by simp [Char.isLower])

theorem switchesOff_iff {value : String} :
    SwitchesOff value ↔ Text.lowerAscii value ∈ ["false", "off", "no"] :=
  exists_spells_iff (by simp [Char.isLower])

theorem SwitchesOff.not_switchesOn {value : String} (off : SwitchesOff value) :
    ¬SwitchesOn value := by
  rw [switchesOff_iff] at off
  rw [switchesOn_iff]
  have disjoint : ∀ word ∈ ["false", "off", "no"], word ∉ ["true", "on", "yes"] := by decide
  exact disjoint _ off

namespace Source

variable {source : Source} {name : String} {absent : Bool}

theorem flag_eq_true_of_switchesOn
    (on : ∀ value, source.first? name = some value → SwitchesOn value) :
    source.flag name true = .ok true := by
  unfold flag
  cases present : source.first? name with
  | none => rfl
  | some value => simp only [if_pos (switchesOn_iff.1 (on value present))]

theorem flag_eq_false_of_switchesOff {value : String} (present : source.first? name = some value)
    (off : SwitchesOff value) : source.flag name absent = .ok false := by
  have notOn := off.not_switchesOn
  rw [switchesOn_iff] at notOn
  simp only [flag, present, if_neg notOn, if_pos (switchesOff_iff.1 off)]

theorem flag_eq_error_of_neither {value : String} (present : source.first? name = some value)
    (notOn : ¬SwitchesOn value) (notOff : ¬SwitchesOff value) :
    source.flag name absent = .error (.invalidFlag name value) := by
  rw [switchesOn_iff] at notOn
  rw [switchesOff_iff] at notOff
  simp only [flag, present, if_neg notOn, if_neg notOff]

theorem flag_eq_error {failure : Failure} (refused : source.flag name absent = .error failure) :
    ∃ value, failure = .invalidFlag name value := by
  unfold flag at refused
  cases present : source.first? name with
  | none => simp [present] at refused
  | some value =>
      simp only [present] at refused
      split at refused
      · cases refused
      · split at refused
        · cases refused
        · cases refused
          exact ⟨value, rfl⟩

/-- A replacement is the first value of its name; other names have the first value from below. -/
theorem first?_overlay_layered (overlay : Overlay) (below : Source) (name : String) :
    (layered (.overlay overlay) below).first? name =
      (overlay.find? name).or (below.first? name) :=
  rfl

/-- A name without a replacement has all its values from below. -/
theorem layered_of_unreplaced {overlay : Overlay} (unreplaced : overlay.find? name = none) :
    (layered (.overlay overlay) source).first? name = source.first? name ∧
      (layered (.overlay overlay) source).all? name = source.all? name := by
  simp [first?, all?, unreplaced]

end Source

end ParamRules
