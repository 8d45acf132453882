import Mathlib
import ParamRules.Json.Reader

/-!
# Texts in JSON

How a text is written between its quotes, character by character: as the character itself, by a
short escape, or by the hexadecimal code of its one or two units of UTF-16. A half of a surrogate
pair stands for no character on its own. The reader of texts accepts exactly these spellings
(`readText_eq_some_iff`).
-/

namespace ParamRules.Json

/-- The letters of the short escapes and the characters that they stand for. -/
def shortEscapes : List (Char × Char) :=
  [('"', '"'), ('\\', '\\'), ('/', '/'), ('b', '\x08'), ('f', '\x0c'), ('n', '\n'), ('r', '\r'),
    ('t', '\t')]

/-- A unit of UTF-16 in four hexadecimal digits. -/
inductive WritesUnit : List Char → Nat → Prop where
  | digits {a b c d : Char} {first second third fourth : Nat}
      (isFirst : Text.Hexadecimal.value? a = some first)
      (isSecond : Text.Hexadecimal.value? b = some second)
      (isThird : Text.Hexadecimal.value? c = some third)
      (isFourth : Text.Hexadecimal.value? d = some fourth) :
      WritesUnit [a, b, c, d] (4096 * first + 256 * second + 16 * third + fourth)

/-- The ways to write a character of a text. -/
inductive SpellsCharacter : List Char → Char → Prop where
  | itself {character : Char} (visible : 0x20 ≤ character.toNat) (notQuote : character ≠ '"')
      (notBackslash : character ≠ '\\') : SpellsCharacter [character] character
  | short {letter character : Char} (escape : (letter, character) ∈ shortEscapes) :
      SpellsCharacter ['\\', letter] character
  | unit {digits : List Char} {unit : Nat} {character : Char} (written : WritesUnit digits unit)
      (code : character.toNat = unit) : SpellsCharacter ('\\' :: 'u' :: digits) character
  | pair {highDigits lowDigits : List Char} {high low : Nat} {character : Char}
      (highWritten : WritesUnit highDigits high) (lowWritten : WritesUnit lowDigits low)
      (isHigh : 0xd800 ≤ high ∧ high < 0xdc00) (isLow : 0xdc00 ≤ low ∧ low < 0xe000)
      (code : character.toNat = 0x10000 + 0x400 * (high - 0xd800) + (low - 0xdc00)) :
      SpellsCharacter ('\\' :: 'u' :: highDigits ++ '\\' :: 'u' :: lowDigits) character

/-- The ways to write a text, without the quotes around it. -/
inductive SpellsText : List Char → List Char → Prop where
  | nil : SpellsText [] []
  | cons {spelling rest content : List Char} {character : Char}
      (first : SpellsCharacter spelling character) (others : SpellsText rest content) :
      SpellsText (spelling ++ rest) (character :: content)

/-! ## Escapes -/

theorem shortEscape?_eq_some_iff {letter character : Char} :
    shortEscape? letter = some character ↔ (letter, character) ∈ shortEscapes := by
  simp only [shortEscapes, List.mem_cons, Prod.mk.injEq, List.not_mem_nil, or_false]
  constructor
  · intro found
    unfold shortEscape? at found
    split at found <;> simp_all [eq_comm]
  · rintro (⟨rfl, rfl⟩ | ⟨rfl, rfl⟩ | ⟨rfl, rfl⟩ | ⟨rfl, rfl⟩ | ⟨rfl, rfl⟩ | ⟨rfl, rfl⟩ |
      ⟨rfl, rfl⟩ | ⟨rfl, rfl⟩) <;> rfl

theorem value?_lt {digit : Char} {value : Nat}
    (read : Text.Hexadecimal.value? digit = some value) : value < 16 := by
  simp only [Text.Hexadecimal.value?, Char.le_def, UInt32.le_iff_toNat_le] at read
  have codes : ('0' : Char).toNat = 48 ∧ ('a' : Char).toNat = 97 ∧ ('A' : Char).toNat = 65 ∧
      ('9' : Char).val.toNat = 57 ∧ ('f' : Char).val.toNat = 102 ∧ ('F' : Char).val.toNat = 70 := by
    decide
  have code : digit.toNat = digit.val.toNat := rfl
  split_ifs at read <;> simp only [Option.some.injEq] at read <;> omega

theorem readUnit_eq {a b c d : Char} :
    Text.Hexadecimal.read? [a, b, c, d] = (do
      let first ← Text.Hexadecimal.value? a
      let second ← Text.Hexadecimal.value? b
      let third ← Text.Hexadecimal.value? c
      let fourth ← Text.Hexadecimal.value? d
      return 4096 * first + 256 * second + 16 * third + fourth) := by
  simp only [Text.Hexadecimal.read?, List.foldlM_cons, List.foldlM_nil]
  cases Text.Hexadecimal.value? a <;> cases Text.Hexadecimal.value? b <;>
    cases Text.Hexadecimal.value? c <;> cases Text.Hexadecimal.value? d <;>
    simp
  omega

theorem readUnit_eq_some_iff {a b c d : Char} {unit : Nat} :
    Text.Hexadecimal.read? [a, b, c, d] = some unit ↔ WritesUnit [a, b, c, d] unit := by
  constructor
  · intro read
    simp only [readUnit_eq, Option.bind_eq_bind, Option.bind_eq_some_iff, Option.pure_def,
      Option.some.injEq] at read
    rcases read with ⟨first, isFirst, second, isSecond, third, isThird, fourth, isFourth, rfl⟩
    exact .digits isFirst isSecond isThird isFourth
  · rintro ⟨isFirst, isSecond, isThird, isFourth⟩
    simp [readUnit_eq, *]

theorem WritesUnit.lt {digits : List Char} {unit : Nat} (written : WritesUnit digits unit) :
    unit < 65536 := by
  cases written with
  | digits isFirst isSecond isThird isFourth =>
      have := value?_lt isFirst
      have := value?_lt isSecond
      have := value?_lt isThird
      have := value?_lt isFourth
      omega

theorem noSurrogate (character : Char) :
    ¬(0xd800 ≤ character.toNat ∧ character.toNat < 0xe000) := by
  have valid : character.toNat < 0xd800 ∨ 0xdfff < character.toNat ∧ character.toNat < 0x110000 :=
    character.valid
  omega

theorem ofNat_eq_iff {code : Nat} {character : Char} (small : code < 0x110000)
    (notHalf : ¬(0xd800 ≤ code ∧ code < 0xe000)) :
    Char.ofNat code = character ↔ character.toNat = code := by
  have valid : code.isValidChar := by
    unfold Nat.isValidChar
    omega
  constructor
  · rintro rfl
    simp [Char.toNat_ofNat, valid]
  · rintro rfl
    exact Char.ofNat_toNat character

theorem ofUnit?_eq_some_iff {unit : Nat} {character : Char} (small : unit < 65536) :
    ofUnit? unit = some character ↔ character.toNat = unit := by
  have notHalf := noSurrogate character
  unfold ofUnit?
  split_ifs with half
  · simp only [false_iff]
    omega
  · rw [Option.some.injEq, ofNat_eq_iff (by omega) half]

theorem ofUnits?_eq_some_iff {high low : Nat} {character : Char} :
    ofUnits? high low = some character ↔
      (0xd800 ≤ high ∧ high < 0xdc00) ∧ (0xdc00 ≤ low ∧ low < 0xe000) ∧
        character.toNat = 0x10000 + 0x400 * (high - 0xd800) + (low - 0xdc00) := by
  unfold ofUnits?
  split_ifs with surrogates
  · rw [Option.some.injEq, ofNat_eq_iff (by omega) (by omega)]
    omega
  · simp only [false_iff]
    omega

/-! ## Whole texts -/

theorem readText_quote (after : List Char) : readText ('"' :: after) = some ([], after) := by
  rw [readText]

theorem readText_itself {character : Char} (visible : 0x20 ≤ character.toNat)
    (notQuote : character ≠ '"') (notBackslash : character ≠ '\\') (rest : List Char) :
    readText (character :: rest) = (readText rest).map (prepend character) := by
  rw [readText]
  · simp [notBackslash, visible]
  all_goals simp_all

theorem readText_short {letter character : Char} (escape : (letter, character) ∈ shortEscapes)
    (rest : List Char) :
    readText ('\\' :: letter :: rest) = (readText rest).map (prepend character) := by
  have found := shortEscape?_eq_some_iff.mpr escape
  have notUnit : letter ≠ 'u' := by
    rintro rfl
    simp [shortEscape?] at found
  rw [readText]
  · simp [found, Option.map_eq_bind]
  all_goals simp_all

theorem readText_unit {digits : List Char} {unit : Nat} {character : Char}
    (written : WritesUnit digits unit) (code : character.toNat = unit) (rest : List Char) :
    readText ('\\' :: 'u' :: digits ++ rest) = (readText rest).map (prepend character) := by
  have single := (ofUnit?_eq_some_iff written.lt).mpr code
  cases written with
  | @digits a b c d first second third fourth isFirst isSecond isThird isFourth =>
      have read := readUnit_eq_some_iff.mpr (.digits isFirst isSecond isThird isFourth)
      by_cases escaped : ∃ e f g h after, rest = '\\' :: 'u' :: e :: f :: g :: h :: after
      · rcases escaped with ⟨e, f, g, h, after, rfl⟩
        simp only [List.cons_append, List.nil_append]
        rw [readText]
        simp [read, single, Option.map_eq_bind]
      · simp only [List.cons_append, List.nil_append]
        rw [readText]
        · simp [read, single, Option.map_eq_bind]
        · intro e f g h after same
          exact escaped ⟨e, f, g, h, after, same⟩

theorem readText_pair {highDigits lowDigits : List Char} {high low : Nat} {character : Char}
    (highWritten : WritesUnit highDigits high) (lowWritten : WritesUnit lowDigits low)
    (isHigh : 0xd800 ≤ high ∧ high < 0xdc00) (isLow : 0xdc00 ≤ low ∧ low < 0xe000)
    (code : character.toNat = 0x10000 + 0x400 * (high - 0xd800) + (low - 0xdc00))
    (rest : List Char) :
    readText ('\\' :: 'u' :: highDigits ++ '\\' :: 'u' :: lowDigits ++ rest) =
      (readText rest).map (prepend character) := by
  have notAlone : ofUnit? high = none := if_pos ⟨isHigh.1, by omega⟩
  have both := ofUnits?_eq_some_iff.mpr ⟨isHigh, isLow, code⟩
  cases highWritten with
  | @digits a b c d _ _ _ _ isA isB isC isD =>
      have highRead := readUnit_eq_some_iff.mpr (.digits isA isB isC isD)
      cases lowWritten with
      | @digits e f g h _ _ _ _ isE isF isG isH =>
          have lowRead := readUnit_eq_some_iff.mpr (.digits isE isF isG isH)
          simp only [List.cons_append, List.nil_append]
          rw [readText]
          simp [highRead, lowRead, notAlone, both, Option.map_eq_bind]

theorem readText_character {spelling : List Char} {character : Char}
    (spelled : SpellsCharacter spelling character) (rest : List Char) :
    readText (spelling ++ rest) = (readText rest).map (prepend character) := by
  cases spelled with
  | itself visible notQuote notBackslash => exact readText_itself visible notQuote notBackslash rest
  | short escape => exact readText_short escape rest
  | unit written code => exact readText_unit written code rest
  | pair highWritten lowWritten isHigh isLow code =>
      exact readText_pair highWritten lowWritten isHigh isLow code rest

theorem readText_of_spellsText {spelling content : List Char}
    (spelled : SpellsText spelling content) (after : List Char) :
    readText (spelling ++ '"' :: after) = some (content, after) := by
  induction spelled with
  | nil => exact readText_quote after
  | cons first others ih =>
      rw [List.append_assoc, readText_character first, ih]
      rfl

theorem exists_spelling_cons {first rest content after : List Char} {character : Char}
    {read : List Char × List Char} (spelled : SpellsCharacter first character)
    (others : ∃ spelling, rest = spelling ++ '"' :: read.2 ∧ SpellsText spelling read.1)
    (whole : prepend character read = (content, after)) :
    ∃ spelling, first ++ rest = spelling ++ '"' :: after ∧ SpellsText spelling content := by
  rcases others with ⟨spelling, rfl, spellsRest⟩
  cases whole
  exact ⟨first ++ spelling, by simp, .cons spelled spellsRest⟩

theorem spellsText_of_readText {ahead content after : List Char}
    (read : readText ahead = some (content, after)) :
    ∃ spelling, ahead = spelling ++ '"' :: after ∧ SpellsText spelling content := by
  fun_induction readText ahead generalizing content after with
  | case1 => simp at read
  | case2 rest =>
      cases read
      exact ⟨[], rfl, .nil⟩
  | case3 a b c d e f g h rest ihSecond ih =>
      simp only [Option.bind_eq_bind, Option.bind_eq_some_iff] at read
      rcases read with ⟨unit, readUnit, read⟩
      have written := readUnit_eq_some_iff.mp readUnit
      cases single : ofUnit? unit with
      | some character =>
          simp only [single, Option.bind_eq_some_iff, Option.pure_def, Option.some.injEq] at read
          rcases read with ⟨others, readOthers, whole⟩
          have code := (ofUnit?_eq_some_iff written.lt).mp single
          exact exists_spelling_cons (.unit written code) (ihSecond readOthers) whole
      | none =>
          simp only [single, Option.bind_eq_some_iff, Option.pure_def, Option.some.injEq] at read
          rcases read with ⟨low, readLow, character, both, others, readOthers, whole⟩
          rcases ofUnits?_eq_some_iff.mp both with ⟨isHigh, isLow, code⟩
          have lowWritten := readUnit_eq_some_iff.mp readLow
          exact exists_spelling_cons (.pair written lowWritten isHigh isLow code) (ih readOthers)
            whole
  | case4 a b c d rest notPair ih =>
      simp only [Option.bind_eq_bind, Option.bind_eq_some_iff, Option.pure_def,
        Option.some.injEq] at read
      rcases read with ⟨unit, readUnit, character, single, others, readOthers, whole⟩
      have written := readUnit_eq_some_iff.mp readUnit
      have code := (ofUnit?_eq_some_iff written.lt).mp single
      exact exists_spelling_cons (.unit written code) (ih readOthers) whole
  | case5 letter rest notPair notUnit ih =>
      simp only [Option.bind_eq_bind, Option.bind_eq_some_iff, Option.pure_def,
        Option.some.injEq] at read
      rcases read with ⟨character, found, others, readOthers, whole⟩
      exact exists_spelling_cons (.short (shortEscape?_eq_some_iff.mp found)) (ih readOthers) whole
  | case6 => simp at read
  | case7 character rest notQuote notPair notUnit notShort visible ih =>
      simp only [Option.map_eq_some_iff] at read
      rcases read with ⟨others, readOthers, whole⟩
      push Not at visible
      exact exists_spelling_cons (.itself visible.1 notQuote visible.2) (ih readOthers) whole

theorem readText_eq_some_iff {ahead content after : List Char} :
    readText ahead = some (content, after) ↔
      ∃ spelling, ahead = spelling ++ '"' :: after ∧ SpellsText spelling content := by
  constructor
  · exact spellsText_of_readText
  · rintro ⟨spelling, rfl, spelled⟩
    exact readText_of_spellsText spelled after

end ParamRules.Json
