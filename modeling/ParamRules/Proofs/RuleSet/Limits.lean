import ParamRules.Proofs.Config.Settling
import ParamRules.Proofs.RuleSet.Printing
import ParamRules.Proofs.Text.Integer

/-!
# Caps and floors

A cap is an entry `>N:N` and a floor an entry `<N:N`: an integer beyond the limit becomes the limit.
The line of a cap, a floor or both is always read and never fails in evaluation, keeps every integer
between its limits and leaves every other value alone (`limits_bound_values`). Integers are compared
as integers and written back as text, so a limit settles on the plain spelling of its bound.
-/

namespace ParamRules

open Text.Integer (Fits read? write read?_write)

/-- Where no bound is bad, the first entry that holds of a value gives its replacement. -/
theorem Rule.effect_of_sound {rule : Rule} {param value : String} (free : ¬rule.HasInvariant)
    (sound : ¬rule.HasBadBound) :
    rule.effect param (some value) =
      .ok ((rule.entries.find? fun entry => entry.condition.judge value = .holds).map
        Entry.replacement) := by
  rw [effect, decision_of_present (replacement?_invariant_eq_none_iff.2 free)]
  have search := search_firstMatch param value 0 rule.entries
  generalize (firstMatch param value 0 rule.entries).result = result at search ⊢
  have unheld : ∀ entry : Entry, entry.Passes value → entry.condition.judge value ≠ .holds := by
    rintro entry (fails | notNumeric)
    · simp [fails]
    · simp [notNumeric]
  cases search with
  | matched shape passed holds =>
      rename_i before after entry
      have found : rule.entries.find? (fun entry => entry.condition.judge value = .holds) =
          some entry := by
        rw [List.find?_eq_some_iff_append]
        refine ⟨by simpa using holds, before, after, shape, fun earlier mem => ?_⟩
        simpa using unheld earlier (passed earlier mem)
      simp [found, Except.map, Outcome.replacement?]
  | stuck shape passed bad => exact absurd ⟨_, by simp [shape], bad⟩ sound
  | exhausted passed =>
      have absent : rule.entries.find? (fun entry => entry.condition.judge value = .holds) =
          none := by
        rw [List.find?_eq_none]
        intro entry mem
        simpa using unheld entry (passed entry mem)
      simp [absent, Except.map, Outcome.replacement?]

/-- A bound that integers may not pass on one side. -/
structure Limit where
  side : Direction
  bound : Int

namespace Limit

/-- The token that sets a limit: an integer on the limit or beyond is replaced by the limit. -/
def token (limit : Limit) : String :=
  String.singleton limit.side.sign ++ write limit.bound ++ ":" ++ write limit.bound

def entry (limit : Limit) : Entry :=
  ⟨.threshold limit.side (write limit.bound), write limit.bound⟩

theorem key_entry (limit : Limit) :
    limit.entry.key = String.singleton limit.side.sign ++ write limit.bound := by
  rw [← String.toList_inj]
  simp [entry, Entry.key, Condition.key]

theorem text_entry (limit : Limit) : limit.entry.text = limit.token := by
  rw [Entry.text, key_entry, token, entry]

theorem not_mem_write {integer : Int} {character : Char} (noMinus : character ≠ '-')
    (noDigit : character.isDigit = false) : character ∉ (write integer).toList := by
  intro mem
  rcases Text.Integer.eq_minus_or_isDigit_of_mem_write mem with minus | digit
  · exact noMinus minus
  · rw [noDigit] at digit
    cases digit

theorem not_mem_key (limit : Limit) {character : Char} (noSign : character ∉ ['>', '<'])
    (noMinus : character ≠ '-') (noDigit : character.isDigit = false) :
    character ∉ limit.entry.key.toList := by
  rw [key_entry, String.toList_append, String.toList_singleton, List.mem_append]
  rintro (sign | mem)
  · rw [List.mem_singleton] at sign
    subst sign
    cases side : limit.side <;> simp [side, Direction.sign] at noSign
  · exact not_mem_write noMinus noDigit mem

theorem printable_entry (limit : Limit) : limit.entry.Printable where
  nonempty := Text.Integer.write_ne_empty limit.bound
  keySpace := limit.not_mem_key (by decide) (by decide) (by decide)
  keyColon := limit.not_mem_key (by decide) (by decide) (by decide)
  replacementSpace := not_mem_write (by decide) (by decide)
  replacementColon := not_mem_write (by decide) (by decide)
  named := by
    rw [key_entry, Entry.ofKey, Condition.ofKey_sign]
    rfl

theorem holds_entry_iff {limit : Limit} (fits : Fits limit.bound) (text : String) :
    limit.entry.condition.judge text = .holds ↔
      ∃ number, read? text = some number ∧ limit.side.admits number limit.bound = true := by
  simp only [entry, Condition.judge, read?_write, if_pos fits]
  cases read? text with
  | none => simp
  | some number => simp

/-- The first of some limits that an integer lies on or beyond. -/
def reached? (limits : List Limit) (number : Int) : Option Limit :=
  limits.find? fun limit => limit.side.admits number limit.bound

/-- A rule of limits alone. -/
structure Makes (limits : List Limit) (rule : Rule) : Prop where
  entries : rule.entries = limits.map entry
  fits : ∀ limit ∈ limits, Fits limit.bound

namespace Makes

variable {limits : List Limit} {rule : Rule} {param text : String}

theorem not_hasInvariant (makes : Makes limits rule) : ¬rule.HasInvariant := by
  rintro ⟨other, mem, isInvariant⟩
  rw [makes.entries] at mem
  rcases List.mem_map.1 mem with ⟨limit, _, rfl⟩
  cases isInvariant

theorem not_hasBadBound (makes : Makes limits rule) : ¬rule.HasBadBound := by
  rintro ⟨other, mem, direction, bound, shape, bad⟩
  rw [makes.entries] at mem
  rcases List.mem_map.1 mem with ⟨limit, limitMem, rfl⟩
  cases shape
  rw [read?_write, if_pos (makes.fits limit limitMem)] at bad
  cases bad

theorem effect_absent (makes : Makes limits rule) (param : String) :
    rule.effect param none = .ok none := by
  have noDefault : rule.replacement? .default = none := by
    apply Option.eq_none_iff_forall_ne_some.2
    intro value found
    rw [Rule.replacement?_eq_some_iff, makes.entries] at found
    rcases List.mem_map.1 found with ⟨limit, _, shape⟩
    cases shape
  have free := Rule.replacement?_invariant_eq_none_iff.2 makes.not_hasInvariant
  rw [Rule.effect, Rule.decision_of_absent free, noDefault]
  rfl

theorem effect_present (makes : Makes limits rule) (param text : String) :
    rule.effect param (some text) =
      .ok ((read? text).bind fun number =>
        (reached? limits number).map fun limit => write limit.bound) := by
  have first : (limits.map entry).find? (fun other => other.condition.judge text = .holds) =
      ((read? text).bind (reached? limits)).map entry := by
    rw [List.find?_map]
    congr 1
    cases read : read? text with
    | none =>
        rw [Option.bind_none, List.find?_eq_none]
        intro limit mem
        simp [holds_entry_iff (makes.fits limit mem), read]
    | some number =>
        apply List.find?_congr
        intro limit mem
        simp [holds_entry_iff (makes.fits limit mem), read]
  rw [Rule.effect_of_sound makes.not_hasInvariant makes.not_hasBadBound, makes.entries, first,
    Option.map_map, Option.map_bind]
  rfl

end Makes

end Limit

/-- One or two limits that can be kept together: a floor, a cap, or a floor below a cap in either
order. -/
inductive Limits : Option Int → Option Int → List Limit → Prop where
  | floor {low : Int} (fits : Fits low) : Limits (some low) none [⟨.atMost, low⟩]
  | cap {high : Int} (fits : Fits high) : Limits none (some high) [⟨.atLeast, high⟩]
  | floorThenCap {low high : Int} (lowFits : Fits low) (highFits : Fits high)
      (ordered : low ≤ high) :
      Limits (some low) (some high) [⟨.atMost, low⟩, ⟨.atLeast, high⟩]
  | capThenFloor {low high : Int} (lowFits : Fits low) (highFits : Fits high)
      (ordered : low ≤ high) :
      Limits (some low) (some high) [⟨.atLeast, high⟩, ⟨.atMost, low⟩]

/-- The integer nearest to a given one between a floor and a cap. -/
def clamp (floor? cap? : Option Int) (number : Int) : Int :=
  let capped := cap?.elim number (min · number)
  floor?.elim capped (max · capped)

namespace Limits

variable {floor? cap? : Option Int} {limits : List Limit} {limit : Limit} {number : Int}

theorem bound_eq_clamp (between : Limits floor? cap? limits)
    (reached : Limit.reached? limits number = some limit) :
    limit.bound = clamp floor? cap? number := by
  cases between <;> grind [Limit.reached?, clamp, Direction.admits]

theorem reached?_eq_none_iff (between : Limits floor? cap? limits) :
    Limit.reached? limits number = none ↔
      (∀ low, floor? = some low → low < number) ∧ ∀ high, cap? = some high → number < high := by
  cases between <;> grind [Limit.reached?, Direction.admits]

theorem clamp_eq_self (between : Limits floor? cap? limits)
    (unreached : Limit.reached? limits number = none) : clamp floor? cap? number = number := by
  cases between <;> grind [Limit.reached?, clamp, Direction.admits]

theorem clamp_eq_low {low : Int} (between : Limits floor? cap? limits) (isFloor : floor? = some low)
    (below : number ≤ low) : clamp floor? cap? number = low := by
  cases between <;> grind [clamp]

theorem clamp_eq_high {high : Int} (between : Limits floor? cap? limits)
    (isCap : cap? = some high) (above : high ≤ number) : clamp floor? cap? number = high := by
  cases between <;> grind [clamp]

theorem clamp_clamp (between : Limits floor? cap? limits) :
    clamp floor? cap? (clamp floor? cap? number) = clamp floor? cap? number := by
  cases between <;> grind [clamp]

/-- The rule with the limits as its entries. -/
def rule (between : Limits floor? cap? limits) : Rule where
  entries := limits.map Limit.entry
  distinct := by cases between <;> simp [Limit.entry]

theorem makes_rule (between : Limits floor? cap? limits) : Limit.Makes limits between.rule where
  entries := rfl
  fits := by cases between <;> grind

theorem printable_rule (between : Limits floor? cap? limits) : between.rule.Printable := by
  constructor
  · cases between <;> simp [rule]
  · intro entry mem
    rcases List.mem_map.1 mem with ⟨limit, _, rfl⟩
    exact limit.printable_entry

theorem text_rule (between : Limits floor? cap? limits) :
    between.rule.text = " ".intercalate (limits.map Limit.token) := by
  rw [Rule.text, rule, List.map_map]
  congr 1
  apply List.map_congr_left
  intro limit _
  exact limit.text_entry

/-- The rule set of a limit line. -/
theorem read_line (between : Limits floor? cap? limits) {param : String}
    (plain : '=' ∉ param.toList) :
    (RuleSet.read [param ++ "=" ++ " ".intercalate (limits.map Limit.token)]).result =
      .ok (.ofList [(param, between.rule)]) := by
  have entries : (RuleSet.ofList [(param, between.rule)]).toList = [(param, between.rule)] := rfl
  have permuted : [(param, between.rule)].Perm (RuleSet.ofList [(param, between.rule)]).toList := by
    rw [entries]
  have printable : ∀ pair ∈ (RuleSet.ofList [(param, between.rule)]).toList,
      '=' ∉ pair.1.toList ∧ pair.2.Printable := by
    intro pair mem
    rw [entries, List.mem_singleton] at mem
    subst mem
    exact ⟨plain, between.printable_rule⟩
  have read := (RuleSet.read_lines_eq_ok_iff permuted).2 printable
  rw [List.map_singleton, RuleSet.line, text_rule] at read
  exact read

theorem find?_ofList_eq_some_iff (between : Limits floor? cap? limits) {param name : String}
    {found : Rule} :
    (RuleSet.ofList [(param, between.rule)]).find? name = some found ↔
      name = param ∧ found = between.rule := by
  rw [RuleSet.find?_ofList, List.reverse_singleton, List.lookup_cons, List.lookup_nil]
  by_cases same : name = param
  · simp [same, eq_comm]
  · simp [same, beq_eq_false_iff_ne.2 same]

/-- Limits that are reached give a value on which they settle. -/
theorem settles_rule (between : Limits floor? cap? limits) {param value : String}
    {original : Option String}
    (fires : between.rule.effect param original = .ok (some value)) :
    between.rule.Settles param value := by
  have makes := between.makes_rule
  cases original with
  | none =>
      rw [makes.effect_absent] at fires
      cases fires
  | some text =>
      rw [makes.effect_present, Except.ok.injEq, Option.bind_eq_some_iff] at fires
      rcases fires with ⟨number, _, fires⟩
      rcases Option.map_eq_some_iff.1 fires with ⟨limit, reached, rfl⟩
      have fits := makes.fits limit (List.mem_of_find?_eq_some reached)
      rw [Rule.Settles, makes.effect_present, read?_write, if_pos fits, Option.bind_some]
      -- The bound lies on its own limit, but the other limit may come first: it has the same bound.
      cases reachedAgain : Limit.reached? limits limit.bound with
      | none => exact Or.inl rfl
      | some other =>
          right
          have same : other.bound = limit.bound := by
            rw [between.bound_eq_clamp reachedAgain, between.bound_eq_clamp reached,
              between.clamp_clamp]
          rw [Option.map_some, same]

end Limits

/-- A view of a source keeps a parameter between a floor and a cap: only integers beyond them are
replaced, each by the nearer one. -/
structure Bounded (floor? cap? : Option Int) (param : String) (source view : Source) : Prop where
  absent : source.first? param = none → view.first? param = none
  notNumeric : ∀ text, source.first? param = some text → read? text = none →
    view.first? param = some text ∧ view.all? param = source.all? param
  /-- An integer outside of 64 bits counts as no integer. -/
  outside : ∀ number, ¬Fits number → source.first? param = some (write number) →
    view.first? param = some (write number) ∧ view.all? param = source.all? param
  clamped : ∀ text number, source.first? param = some text → read? text = some number →
    ∃ kept, view.first? param = some kept ∧ read? kept = some (clamp floor? cap? number)
  atCap : ∀ text number high, source.first? param = some text → read? text = some number →
    cap? = some high → high ≤ number → view.first? param = some (write high)
  atFloor : ∀ text number low, source.first? param = some text → read? text = some number →
    floor? = some low → number ≤ low → view.first? param = some (write low)
  inside : ∀ text number, source.first? param = some text → read? text = some number →
    (∀ low, floor? = some low → low < number) → (∀ high, cap? = some high → number < high) →
    view.first? param = some text ∧ view.all? param = source.all? param

namespace Limits

variable {floor? cap? : Option Int} {limits : List Limit} {param : String} {source : Source}
  {overlay : Overlay}

theorem keeps_text (between : Limits floor? cap? limits)
    (effect : between.rule.effect param (source.first? param) = .ok (overlay.find? param))
    {text : String} (present : source.first? param = some text) (notNumeric : read? text = none) :
    (Source.layered (.overlay overlay) source).first? param = some text ∧
      (Source.layered (.overlay overlay) source).all? param = source.all? param := by
  rw [present, between.makes_rule.effect_present, notNumeric, Except.ok.injEq] at effect
  rw [← present]
  exact Source.layered_of_unreplaced effect.symm

theorem keeps_number (between : Limits floor? cap? limits)
    (effect : between.rule.effect param (source.first? param) = .ok (overlay.find? param))
    {text : String} {number : Int} (present : source.first? param = some text)
    (numeric : read? text = some number) (unreached : Limit.reached? limits number = none) :
    (Source.layered (.overlay overlay) source).first? param = some text ∧
      (Source.layered (.overlay overlay) source).all? param = source.all? param := by
  rw [present, between.makes_rule.effect_present, numeric, Option.bind_some, unreached,
    Except.ok.injEq] at effect
  rw [← present]
  exact Source.layered_of_unreplaced effect.symm

theorem moves_number (between : Limits floor? cap? limits)
    (effect : between.rule.effect param (source.first? param) = .ok (overlay.find? param))
    {text : String} {number : Int} (present : source.first? param = some text)
    (numeric : read? text = some number) (reached : Limit.reached? limits number ≠ none) :
    Fits (clamp floor? cap? number) ∧
      (Source.layered (.overlay overlay) source).first? param =
        some (write (clamp floor? cap? number)) := by
  rcases Option.ne_none_iff_exists'.1 reached with ⟨limit, found⟩
  rw [present, between.makes_rule.effect_present, numeric, Option.bind_some, found,
    Except.ok.injEq] at effect
  rw [Source.first?_overlay_layered, ← effect, ← between.bound_eq_clamp found]
  exact ⟨between.makes_rule.fits limit (List.mem_of_find?_eq_some found), rfl⟩

/-- A source is bounded in the view with an overlay that does to a parameter what its limits do. -/
theorem bounded (between : Limits floor? cap? limits)
    (effect : between.rule.effect param (source.first? param) = .ok (overlay.find? param)) :
    Bounded floor? cap? param source (.layered (.overlay overlay) source) where
  absent := by
    intro absent
    rw [absent, between.makes_rule.effect_absent, Except.ok.injEq] at effect
    rw [← absent]
    exact (Source.layered_of_unreplaced effect.symm).1
  notNumeric := fun _ => between.keeps_text effect
  outside := by
    intro number unfit present
    exact between.keeps_text effect present (by rw [read?_write, if_neg unfit])
  clamped := by
    intro text number present numeric
    by_cases reached : Limit.reached? limits number = none
    · refine ⟨text, (between.keeps_number effect present numeric reached).1, ?_⟩
      rw [between.clamp_eq_self reached, numeric]
    · rcases between.moves_number effect present numeric reached with ⟨fits, first⟩
      exact ⟨_, first, by rw [read?_write, if_pos fits]⟩
  atCap := by
    intro text number high present numeric isCap above
    have reached : Limit.reached? limits number ≠ none := by
      rw [Ne, between.reached?_eq_none_iff]
      rintro ⟨_, below⟩
      exact absurd (below high isCap) (Int.not_lt.2 above)
    rw [(between.moves_number effect present numeric reached).2, between.clamp_eq_high isCap above]
  atFloor := by
    intro text number low present numeric isFloor below
    have reached : Limit.reached? limits number ≠ none := by
      rw [Ne, between.reached?_eq_none_iff]
      rintro ⟨above, _⟩
      exact absurd (above low isFloor) (Int.not_lt.2 below)
    rw [(between.moves_number effect present numeric reached).2, between.clamp_eq_low isFloor below]
  inside := by
    intro text number present numeric above below
    exact between.keeps_number effect present numeric
      (between.reached?_eq_none_iff.2 ⟨above, below⟩)

theorem exists_evaluate (between : Limits floor? cap? limits) (param : String) (source : Source) :
    ∃ overlay, ((RuleSet.ofList [(param, between.rule)]).evaluate source).result = .ok overlay := by
  rw [RuleSet.exists_evaluate_iff]
  intro name rule found
  rcases between.find?_ofList_eq_some_iff.1 found with ⟨_, rfl⟩
  cases present : source.first? name with
  | none => exact ⟨_, between.makes_rule.effect_absent name⟩
  | some text => exact ⟨_, between.makes_rule.effect_present name text⟩

end Limits

/-- The line of a floor, a cap or both is always read, always evaluated, and keeps every integer of
its parameter between its limits and everything else as it is; evaluating it again on the view
changes nothing. -/
theorem limits_bound_values {floor? cap? : Option Int} {limits : List Limit} {param : String}
    (between : Limits floor? cap? limits) (plain : '=' ∉ param.toList) :
    ∃ rules,
      (RuleSet.read [param ++ "=" ++ " ".intercalate (limits.map Limit.token)]).result =
        .ok rules ∧
      ∀ source, ∃ overlay, (rules.evaluate source).result = .ok overlay ∧
        Bounded floor? cap? param source (.layered (.overlay overlay) source) ∧
        ∃ again,
          (rules.evaluate (.layered (.overlay overlay) source)).result = .ok again ∧
          (Source.layered (.overlay again) (.layered (.overlay overlay) source)).Alike
            (.layered (.overlay overlay) source) := by
  refine ⟨_, between.read_line plain, fun source => ?_⟩
  rcases between.exists_evaluate param source with ⟨overlay, evaluated⟩
  have found : (RuleSet.ofList [(param, between.rule)]).find? param = some between.rule :=
    between.find?_ofList_eq_some_iff.2 ⟨rfl, rfl⟩
  refine ⟨overlay, evaluated, between.bounded (RuleSet.effect_of_evaluate evaluated found), ?_⟩
  have settles : ∀ name value, overlay.find? name = some value →
      ∀ rule, (RuleSet.ofList [(param, between.rule)]).find? name = some rule →
        rule.Settles name value := by
    intro name value replaced rule ruled
    have effect := RuleSet.effect_of_evaluate evaluated ruled
    rw [replaced] at effect
    rcases between.find?_ofList_eq_some_iff.1 ruled with ⟨_, rfl⟩
    exact between.settles_rule effect
  rcases Config.exists_evaluate_view evaluated settles with ⟨again, evaluatedAgain, within⟩
  exact ⟨again, evaluatedAgain, Source.alike_layered_of_within within source⟩

/-- A value that is read as 500 but spelled otherwise becomes the cap in its plain spelling. -/
theorem limits_bound_values_of_rows :
    Limits (some (-5)) (some 100) [⟨.atLeast, 100⟩, ⟨.atMost, -5⟩] ∧ '=' ∉ "rows".toList ∧
      ∃ rules, (RuleSet.read ["rows=>100:100 <-5:-5"]).result = .ok rules ∧
        ∃ overlay,
          (rules.evaluate (.request (.ofList [("rows", "+0500"), ("rows", "7")]))).result =
            .ok overlay ∧
          (Source.layered (.overlay overlay)
            (.request (.ofList [("rows", "+0500"), ("rows", "7")]))).first? "rows" =
            some "100" := by
  have between : Limits (some (-5)) (some 100) [⟨.atLeast, 100⟩, ⟨.atMost, -5⟩] :=
    .capThenFloor (by decide) (by decide) (by decide)
  have plain : '=' ∉ "rows".toList := by decide
  have line : "rows" ++ "=" ++ " ".intercalate
      ([⟨.atLeast, 100⟩, ⟨.atMost, -5⟩].map Limit.token) = "rows=>100:100 <-5:-5" := by
    cbv
  rcases limits_bound_values between plain with ⟨rules, read, keeps⟩
  rcases keeps (.request (.ofList [("rows", "+0500"), ("rows", "7")])) with
    ⟨overlay, evaluated, bounded, _⟩
  rw [line] at read
  have spelling : write 100 = "100" := by cbv
  have first := bounded.atCap "+0500" 500 100 (by cbv) (by cbv) rfl (by decide)
  rw [spelling] at first
  exact ⟨between, plain, rules, read, overlay, evaluated, first⟩

end ParamRules
