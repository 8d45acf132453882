import ParamRules.Proofs.Rule.Entries
import ParamRules.Proofs.Run
import ParamRules.Proofs.Text
import ParamRules.Rule.Grammar

/-!
# The rule language as a relation

This file says what a line of the rule language is without reading it: `About` takes a line apart
into a parameter and a body, `HasTokens` a body into tokens, `IsPair` a token into a key and a
replacement. `Denotes` gives the rule that a body stands for and `Faulty` the one place at which a
line is blamed. The readers agree with these relations exactly: `readLine_eq_ok_iff` on the lines
that they accept and `readLine_eq_error_iff` on those that they refuse.
-/

namespace ParamRules

namespace Condition

/-- The condition that a key names. -/
inductive Named : String → Condition → Prop where
  | invariant : Named "invariant" .invariant
  | default : Named "default" .default
  | atLeast (bound : String) : Named (">" ++ bound) (.threshold .atLeast bound)
  | atMost (bound : String) : Named ("<" ++ bound) (.threshold .atMost bound)
  | equals {text : String} (notInvariant : text ≠ "invariant") (notDefault : text ≠ "default")
      (notAtLeast : ∀ bound, text ≠ ">" ++ bound) (notAtMost : ∀ bound, text ≠ "<" ++ bound) :
      Named text (.equals text)

theorem eq_sign_append_of_toList_eq {text : String} {sign : Char} {bound : List Char}
    (shape : text.toList = sign :: bound) :
    text = String.singleton sign ++ String.ofList bound := by
  rw [← String.toList_inj]
  simpa using shape

theorem ofKey_sign (direction : Direction) (bound : String) :
    ofKey (String.singleton direction.sign ++ bound) = .threshold direction bound := by
  have notInvariant : String.singleton direction.sign ++ bound ≠ "invariant" := by
    rw [← String.toList_inj.ne]
    cases direction <;> simp [Direction.sign]
  have notDefault : String.singleton direction.sign ++ bound ≠ "default" := by
    rw [← String.toList_inj.ne]
    cases direction <;> simp [Direction.sign]
  rw [ofKey, if_neg notInvariant, if_neg notDefault]
  cases direction <;> simp [Direction.sign]

theorem Named.ofKey_eq {key : String} {condition : Condition} (named : Named key condition) :
    ofKey key = condition := by
  cases named with
  | invariant => rfl
  | default => rfl
  | atLeast bound => exact ofKey_sign .atLeast bound
  | atMost bound => exact ofKey_sign .atMost bound
  | equals notInvariant notDefault notAtLeast notAtMost =>
      rw [ofKey, if_neg notInvariant, if_neg notDefault]
      split
      · rename_i bound shape
        exact absurd (eq_sign_append_of_toList_eq shape) (notAtLeast (.ofList bound))
      · rename_i bound shape
        exact absurd (eq_sign_append_of_toList_eq shape) (notAtMost (.ofList bound))
      · rfl

theorem Named.named_ofKey {key : String} {condition : Condition} (named : Named key condition) :
    Named key (ofKey key) := by
  rw [named.ofKey_eq]
  exact named

theorem named_ofKey (key : String) : Named key (ofKey key) := by
  by_cases isInvariant : key = "invariant"
  · subst isInvariant
    exact Named.invariant.named_ofKey
  by_cases isDefault : key = "default"
  · subst isDefault
    exact Named.default.named_ofKey
  by_cases isAtLeast : ∃ bound, key = ">" ++ bound
  · rcases isAtLeast with ⟨bound, rfl⟩
    exact (Named.atLeast bound).named_ofKey
  by_cases isAtMost : ∃ bound, key = "<" ++ bound
  · rcases isAtMost with ⟨bound, rfl⟩
    exact (Named.atMost bound).named_ofKey
  have named : Named key (.equals key) :=
    .equals isInvariant isDefault (not_exists.1 isAtLeast) (not_exists.1 isAtMost)
  exact named.named_ofKey

theorem named_iff {key : String} {condition : Condition} :
    Named key condition ↔ ofKey key = condition := by
  constructor
  · exact Named.ofKey_eq
  · intro same
    rw [← same]
    exact named_ofKey key

end Condition

namespace Grammar

/-- A token is a key and a replacement with the only colon between them. -/
structure IsPair (token key replacement : String) : Prop where
  shape : token = key ++ ":" ++ replacement
  keyPlain : ':' ∉ key.toList
  replacementPlain : ':' ∉ replacement.toList
  /-- Something follows the colon. -/
  nonempty : replacement ≠ ""

/-- Some key and some replacement make up a token. -/
def IsToken (token : String) : Prop :=
  ∃ key replacement, IsPair token key replacement

/-- The tokens of a body are what single spaces separate in it, once the spaces at its end are
removed. -/
structure HasTokens (body : String) (tokens : List String) : Prop where
  shape : ∃ spaces, body = " ".intercalate tokens ++ String.ofList (List.replicate spaces ' ')
  trimmed : (" ".intercalate tokens).toList.getLast? ≠ some ' '
  plain : ∀ token ∈ tokens, ' ' ∉ token.toList
  nonempty : tokens ≠ []

/-- A line is about the parameter before its first `=`; the body is what follows. -/
structure About (line param body : String) : Prop where
  shape : line = param ++ "=" ++ body
  plain : '=' ∉ param.toList

/-- A line of the rule language. -/
def WellFormed (line : String) : Prop :=
  ∃ param body, About line param body ∧
    (':' ∉ body.toList ∨ ∃ tokens, HasTokens body tokens ∧ ∀ token ∈ tokens, IsToken token)

/-- What a line outside the rule language is blamed for: the missing `=`, or else its first bad
token. -/
inductive Faulty : String → Failure → Prop where
  | separator {line : String} (missing : '=' ∉ line.toList) :
      Faulty line (.missingSeparator line)
  | token {line param body token : String} {before after : List String}
      (about : About line param body) (colon : ':' ∈ body.toList)
      (tokens : HasTokens body (before ++ token :: after))
      (good : ∀ earlier ∈ before, IsToken earlier) (bad : ¬IsToken token) :
      Faulty line (.malformedEntry param token)

/-- A rule that has one entry for each key among some pairs, in order of first occurrence, with the
replacement that the key is given last. -/
structure Gathers (pairs : List (String × String)) (rule : Rule) : Prop where
  keys : rule.entries.map Entry.key = (pairs.map Prod.fst).eraseDups
  named : ∀ entry ∈ rule.entries, Condition.Named entry.key entry.condition
  last : ∀ entry ∈ rule.entries, pairs.reverse.lookup entry.key = some entry.replacement

/-- The rule that a body stands for. -/
inductive Denotes : String → Rule → Prop where
  | value {body : String} {rule : Rule} (plain : ':' ∉ body.toList)
      (single : rule.entries = [⟨.invariant, body⟩]) : Denotes body rule
  | tokens {body : String} {tokens : List String} {pairs : List (String × String)} {rule : Rule}
      (colon : ':' ∈ body.toList) (split : HasTokens body tokens)
      (read : List.Forall₂ (fun token pair => IsPair token pair.1 pair.2) tokens pairs)
      (gathers : Gathers pairs rule) : Denotes body rule

/-! ## The relations and the functions that cut -/

theorem about_iff {line param body : String} :
    About line param body ↔ Text.cut? '=' line = some (param, body) := by
  rw [Text.cut?_eq_some_iff]
  constructor
  · rintro ⟨rfl, plain⟩
    exact ⟨by simp, plain⟩
  · rintro ⟨shape, plain⟩
    exact ⟨String.toList_inj.1 (by simpa using shape), plain⟩

theorem hasTokens_iff {body : String} {tokens : List String} :
    HasTokens body tokens ↔ Text.split ' ' (Text.dropTrailing ' ' body) = tokens := by
  rw [Text.split_eq_iff]
  constructor
  · rintro ⟨shape, trimmed, plain, nonempty⟩
    exact ⟨nonempty, plain, (Text.dropTrailing_eq_iff.2 ⟨shape, trimmed⟩).symm⟩
  · rintro ⟨nonempty, plain, joined⟩
    rcases Text.dropTrailing_eq_iff.1 joined.symm with ⟨shape, trimmed⟩
    exact ⟨shape, trimmed, plain, nonempty⟩

theorem isPair_iff {token key replacement : String} :
    IsPair token key replacement ↔
      Text.split ':' token = [key, replacement] ∧ replacement ≠ "" := by
  rw [Text.split_eq_iff]
  constructor
  · rintro ⟨rfl, keyPlain, replacementPlain, nonempty⟩
    refine ⟨⟨by simp, ?_, ?_⟩, nonempty⟩
    · rintro piece mem
      rcases List.mem_pair.1 mem with rfl | rfl
      · exact keyPlain
      · exact replacementPlain
    · simp [String.intercalate_cons_cons]
  · rintro ⟨⟨_, plain, joined⟩, nonempty⟩
    refine ⟨?_, plain key (by simp), plain replacement (by simp), nonempty⟩
    rw [← joined]
    simp [String.intercalate_cons_cons]

/-! ## Entries and rules -/

theorem ofToken?_eq_some_iff {token : String} {entry : Entry} :
    Entry.ofToken? token = some entry ↔
      ∃ key replacement, IsPair token key replacement ∧ Entry.ofKey key replacement = entry := by
  simp only [Entry.ofToken?]
  constructor
  · intro found
    split at found
    · rename_i key replacement pieces
      split at found
      · cases found
      · rename_i nonempty
        exact ⟨key, replacement, isPair_iff.2 ⟨pieces, nonempty⟩, Option.some.inj found⟩
    · cases found
  · rintro ⟨key, replacement, pair, rfl⟩
    rcases isPair_iff.1 pair with ⟨pieces, nonempty⟩
    simp [pieces, nonempty]

theorem ofToken?_eq_none_iff {token : String} :
    Entry.ofToken? token = none ↔ ¬IsToken token := by
  constructor
  · rintro unread ⟨key, replacement, pair⟩
    have found := ofToken?_eq_some_iff.2 ⟨key, replacement, pair, rfl⟩
    rw [unread] at found
    cases found
  · intro bad
    cases found : Entry.ofToken? token with
    | none => rfl
    | some entry =>
        rcases ofToken?_eq_some_iff.1 found with ⟨key, replacement, pair, _⟩
        exact absurd ⟨key, replacement, pair⟩ bad

/-- The entries that pairs of a key and a replacement stand for. -/
def entriesOf (pairs : List (String × String)) : List Entry :=
  pairs.map fun pair => Entry.ofKey pair.1 pair.2

theorem conditions_entriesOf (pairs : List (String × String)) :
    (entriesOf pairs).map Entry.condition = (pairs.map Prod.fst).map Condition.ofKey := by
  simp [entriesOf, Entry.ofKey, Function.comp_def]

theorem lookup_entriesOf (pairs : List (String × String)) (key : String) :
    (Rule.assignments (entriesOf pairs)).reverse.lookup (.ofKey key) =
      pairs.reverse.lookup key := by
  have shape : (Rule.assignments (entriesOf pairs)).reverse =
      pairs.reverse.map fun pair => (Condition.ofKey pair.1, pair.2) := by
    simp [Rule.assignments, entriesOf, Entry.ofKey, Function.comp_def]
  rw [shape, Occurrence.lookup_map_of_injective Condition.ofKey_injective]

theorem Gathers.entries_eq {pairs : List (String × String)} {rule : Rule}
    (gathers : Gathers pairs rule) :
    rule.entries = ((pairs.map Prod.fst).eraseDups).map fun key =>
      ⟨.ofKey key, (pairs.reverse.lookup key).getD ""⟩ := by
  rw [← gathers.keys, List.map_map, List.map_congr_left, List.map_id]
  intro entry mem
  simp [gathers.last entry mem, Condition.named_iff.1 (gathers.named entry mem)]

theorem conditions_ofEntries_entriesOf (pairs : List (String × String)) :
    (Rule.ofEntries (entriesOf pairs)).conditions =
      (pairs.map Prod.fst).eraseDups.map Condition.ofKey := by
  rw [Rule.conditions_ofEntries, conditions_entriesOf,
    Occurrence.eraseDups_map_of_injective Condition.ofKey_injective]

theorem ofKey_key_of_mem {pairs : List (String × String)} {entry : Entry}
    (mem : entry ∈ (Rule.ofEntries (entriesOf pairs)).entries) :
    Condition.ofKey entry.key = entry.condition := by
  have conditionMem : entry.condition ∈ (Rule.ofEntries (entriesOf pairs)).conditions :=
    List.mem_map_of_mem mem
  rw [conditions_ofEntries_entriesOf] at conditionMem
  rcases List.mem_map.1 conditionMem with ⟨key, _, same⟩
  rw [Entry.key, ← same, Condition.key_ofKey]

theorem gathers_ofEntries (pairs : List (String × String)) :
    Gathers pairs (Rule.ofEntries (entriesOf pairs)) where
  keys := by
    have keys := congrArg (List.map Condition.key) (conditions_ofEntries_entriesOf pairs)
    have cancel : Condition.key ∘ Condition.ofKey = id := funext Condition.key_ofKey
    rw [List.map_map, cancel, List.map_id, Rule.conditions, List.map_map] at keys
    exact keys
  named := by
    intro entry mem
    rw [Condition.named_iff]
    exact ofKey_key_of_mem mem
  last := by
    intro entry mem
    rw [← lookup_entriesOf, ofKey_key_of_mem mem, ← Rule.replacement?_ofEntries]
    exact Rule.replacement?_eq_some_iff.2 mem

/-- Pushing the entries of some pairs gathers them, and nothing else does. -/
theorem gathers_iff {pairs : List (String × String)} {rule : Rule} :
    Gathers pairs rule ↔ Rule.ofEntries (entriesOf pairs) = rule := by
  constructor
  · intro gathers
    ext1
    rw [(gathers_ofEntries pairs).entries_eq, gathers.entries_eq]
  · intro same
    rw [← same]
    exact gathers_ofEntries pairs

end Grammar

namespace Rule

open Grammar

theorem readToken_eq_ok_iff {param token : String} {entry : Entry} :
    (readToken param token).result = .ok entry ↔
      ∃ key replacement, IsPair token key replacement ∧ Entry.ofKey key replacement = entry := by
  rw [← ofToken?_eq_some_iff]
  simp only [readToken]
  cases Entry.ofToken? token with
  | some read => simp
  | none => simp

theorem readToken_eq_error_iff {param token : String} {failure : Failure} :
    (readToken param token).result = .error failure ↔
      ¬IsToken token ∧ failure = .malformedEntry param token := by
  rw [← ofToken?_eq_none_iff]
  simp only [readToken]
  cases Entry.ofToken? token with
  | some read => simp
  | none => simp [eq_comm]

theorem mapM_readToken_eq_ok_iff {param : String} {tokens : List String} {entries : List Entry} :
    (tokens.mapM (readToken param)).result = .ok entries ↔
      ∃ pairs, List.Forall₂ (fun token pair => IsPair token pair.1 pair.2) tokens pairs ∧
        entriesOf pairs = entries := by
  rw [Run.mapM_eq_ok_iff]
  simp only [readToken_eq_ok_iff]
  constructor
  · intro read
    induction read with
    | nil => exact ⟨[], .nil, rfl⟩
    | cons first _ ih =>
        rcases first with ⟨key, replacement, pair, rfl⟩
        rcases ih with ⟨pairs, rest, rfl⟩
        exact ⟨(key, replacement) :: pairs, .cons pair rest, rfl⟩
  · rintro ⟨pairs, read, rfl⟩
    simp only [entriesOf]
    rw [List.forall₂_map_right_iff]
    exact read.imp fun token pair isPair => ⟨pair.1, pair.2, isPair, rfl⟩

/-- The bodies that are read, and the rules that they are read as. -/
theorem readBody_eq_ok_iff {param body : String} {rule : Rule} :
    (readBody param body).result = .ok rule ↔ Denotes body rule := by
  simp only [readBody]
  split
  · rename_i colon
    rw [Run.bind_eq_ok_iff]
    simp only [mapM_readToken_eq_ok_iff, Run.result_pure, Except.ok.injEq]
    constructor
    · rintro ⟨_, ⟨pairs, read, rfl⟩, pushed⟩
      exact .tokens colon (hasTokens_iff.2 rfl) read (gathers_iff.2 pushed)
    · intro denotes
      cases denotes with
      | value plain _ => exact absurd colon plain
      | tokens _ split read gathers =>
          rw [hasTokens_iff.1 split]
          exact ⟨_, ⟨_, read, rfl⟩, gathers_iff.1 gathers⟩
  · rename_i plain
    rw [Run.result_pure, Except.ok.injEq]
    constructor
    · rintro rfl
      exact .value plain rfl
    · intro denotes
      cases denotes with
      | value _ single =>
          ext1
          exact single.symm
      | tokens colon _ _ _ => exact absurd colon plain

/-- The bodies that are refused: the failure is about the first bad token. -/
theorem readBody_eq_error_iff {param body : String} {failure : Failure} :
    (readBody param body).result = .error failure ↔
      ':' ∈ body.toList ∧ ∃ before token after, HasTokens body (before ++ token :: after) ∧
        (∀ earlier ∈ before, IsToken earlier) ∧ ¬IsToken token ∧
        failure = .malformedEntry param token := by
  simp only [readBody]
  split
  · rename_i colon
    rw [Run.bind_eq_error_iff, Run.mapM_eq_error_iff]
    simp only [readToken_eq_error_iff, readToken_eq_ok_iff, hasTokens_iff, Run.result_pure,
      reduceCtorEq, and_false, exists_false, or_false, colon, true_and]
    constructor
    · rintro ⟨before, token, after, split, good, bad, rfl⟩
      refine ⟨before, token, after, split, fun earlier mem => ?_, bad, rfl⟩
      rcases good earlier mem with ⟨_, key, replacement, pair, _⟩
      exact ⟨key, replacement, pair⟩
    · rintro ⟨before, token, after, split, good, bad, rfl⟩
      refine ⟨before, token, after, split, fun earlier mem => ?_, bad, rfl⟩
      rcases good earlier mem with ⟨key, replacement, pair⟩
      exact ⟨_, key, replacement, pair, rfl⟩
  · rename_i plain
    simp [plain]

theorem readLine_eq_ok_iff {line param : String} {rule : Rule} :
    (readLine line).result = .ok (param, rule) ↔
      ∃ body, About line param body ∧ Denotes body rule := by
  simp only [readLine]
  simp only [about_iff]
  split
  · rename_i name body cut
    simp only [Run.bind_eq_ok_iff, readBody_eq_ok_iff, Run.result_pure, Except.ok.injEq,
      Prod.mk.injEq, cut, Option.some.injEq]
    constructor
    · rintro ⟨read, denotes, rfl, rfl⟩
      exact ⟨body, ⟨rfl, rfl⟩, denotes⟩
    · rintro ⟨_, ⟨rfl, rfl⟩, denotes⟩
      exact ⟨rule, denotes, rfl, rfl⟩
  · rename_i uncut
    simp [uncut]

theorem readLine_eq_error_iff {line : String} {failure : Failure} :
    (readLine line).result = .error failure ↔ Faulty line failure := by
  simp only [readLine]
  split
  · rename_i param body cut
    simp only [Run.bind_eq_error_iff, readBody_eq_error_iff, Run.result_pure, reduceCtorEq,
      and_false, exists_false, or_false]
    constructor
    · rintro ⟨colon, before, token, after, tokens, good, bad, rfl⟩
      exact .token (about_iff.2 cut) colon tokens good bad
    · intro faulty
      cases faulty with
      | separator missing =>
          rw [Text.cut?_eq_none_iff.2 missing] at cut
          cases cut
      | token about colon tokens good bad =>
          rw [about_iff.1 about] at cut
          cases cut
          exact ⟨colon, _, _, _, tokens, good, bad, rfl⟩
  · rename_i uncut
    simp only [Run.result_bind, Run.result_log, Run.ok_bind, Run.result_fail, Except.error.injEq]
    constructor
    · rintro rfl
      exact .separator (Text.cut?_eq_none_iff.1 uncut)
    · intro faulty
      cases faulty with
      | separator _ => rfl
      | token about _ _ _ _ =>
          rw [about_iff.1 about] at uncut
          cases uncut

end Rule

namespace Grammar

theorem forall_isToken_iff {tokens : List String} :
    (∀ token ∈ tokens, IsToken token) ↔
      ∃ pairs : List (String × String),
        List.Forall₂ (fun token pair => IsPair token pair.1 pair.2) tokens pairs := by
  induction tokens with
  | nil => exact ⟨fun _ => ⟨[], .nil⟩, by simp⟩
  | cons head rest ih =>
      rw [List.forall_mem_cons, ih]
      constructor
      · rintro ⟨⟨key, replacement, pair⟩, pairs, read⟩
        exact ⟨(key, replacement) :: pairs, .cons pair read⟩
      · rintro ⟨_, _ | ⟨pair, read⟩⟩
        exact ⟨⟨_, _, pair⟩, _, read⟩

theorem wellFormed_iff {line : String} :
    WellFormed line ↔ ∃ pair, (Rule.readLine line).result = .ok pair := by
  constructor
  · rintro ⟨param, body, about, good⟩
    by_cases colon : ':' ∈ body.toList
    · rcases good.resolve_left (not_not_intro colon) with ⟨tokens, split, good⟩
      rcases forall_isToken_iff.1 good with ⟨pairs, read⟩
      have denotes := Denotes.tokens colon split read (gathers_iff.2 rfl)
      exact ⟨(param, _), Rule.readLine_eq_ok_iff.2 ⟨body, about, denotes⟩⟩
    · have denotes : Denotes body (.invariant body) := .value colon rfl
      exact ⟨(param, _), Rule.readLine_eq_ok_iff.2 ⟨body, about, denotes⟩⟩
  · rintro ⟨⟨param, rule⟩, read⟩
    rcases Rule.readLine_eq_ok_iff.1 read with ⟨body, about, denotes⟩
    refine ⟨param, body, about, ?_⟩
    cases denotes with
    | value plain _ => exact Or.inl plain
    | tokens _ split read _ => exact Or.inr ⟨_, split, forall_isToken_iff.2 ⟨_, read⟩⟩

end Grammar

end ParamRules
