import Mathlib
import ParamRules.Json.Reader

/-!
# Numbers in JSON

A sign, a whole part without leading zeros, a fraction and an exponent. The reader of numbers
takes exactly such a spelling, provided that what follows cannot be part of a number
(`readNumber_append`, `isNumber_of_readNumber`).
-/

namespace ParamRules.Json

def AreDigits (digits : List Char) : Prop :=
  ∀ digit ∈ digits, digit.isDigit

/-- The digits before the decimal point. -/
inductive IsWhole : List Char → Prop where
  | zero : IsWhole ['0']
  | positive {first : Char} {rest : List Char} (notZero : first ≠ '0')
      (areDigits : AreDigits (first :: rest)) : IsWhole (first :: rest)

inductive IsFraction : List Char → Prop where
  | absent : IsFraction []
  | point {digits : List Char} (nonempty : digits ≠ []) (areDigits : AreDigits digits) :
      IsFraction ('.' :: digits)

inductive IsExponent : List Char → Prop where
  | absent : IsExponent []
  | mark {mark : Char} {sign digits : List Char} (isMark : mark = 'e' ∨ mark = 'E')
      (isSign : sign = [] ∨ sign = ['+'] ∨ sign = ['-']) (nonempty : digits ≠ [])
      (areDigits : AreDigits digits) : IsExponent (mark :: sign ++ digits)

/-- The spelling of a number. -/
inductive IsNumber : List Char → Prop where
  | parts {sign whole fraction exponent : List Char} (isSign : sign = [] ∨ sign = ['-'])
      (isWhole : IsWhole whole) (isFraction : IsFraction fraction)
      (isExponent : IsExponent exponent) : IsNumber (sign ++ whole ++ fraction ++ exponent)

/-- What follows a number ends it. -/
def Ends (after : List Char) : Prop :=
  ∀ next ∈ after.head?, ¬next.isDigit ∧ next ≠ '.' ∧ next ≠ 'e' ∧ next ≠ 'E'

theorem ends_nil : Ends [] := by
  simp [Ends]

theorem ends_cons {next : Char} {rest : List Char} (noDigit : next.isDigit = false)
    (noMark : next ∉ ['.', 'e', 'E']) : Ends (next :: rest) := by
  intro other same
  obtain rfl : next = other := by simpa using same
  simp_all

theorem takeDigits_eq_iff {ahead digits after : List Char} :
    takeDigits ahead = (digits, after) ↔
      ahead = digits ++ after ∧ AreDigits digits ∧ ∀ next ∈ after.head?, ¬next.isDigit := by
  rw [takeDigits, List.span_eq_takeWhile_dropWhile, Prod.mk.injEq]
  constructor
  · rintro ⟨rfl, rfl⟩
    refine ⟨List.takeWhile_append_dropWhile.symm, fun digit mem => List.mem_takeWhile_imp mem, ?_⟩
    intro next isNext
    have fails := List.head?_dropWhile_not Char.isDigit ahead
    rw [Option.mem_def.mp isNext] at fails
    simpa using fails
  · rintro ⟨rfl, areDigits, ends⟩
    rw [List.takeWhile_append_of_pos areDigits, List.dropWhile_append_of_pos areDigits]
    cases after with
    | nil => simp
    | cons next rest =>
        have fails := ends next rfl
        simp [fails]

theorem AreDigits.head_ne {first other : Char} {rest : List Char}
    (areDigits : AreDigits (first :: rest)) (noDigit : other.isDigit = false) : first ≠ other := by
  rintro rfl
  simpa [noDigit] using areDigits first List.mem_cons_self

theorem readWhole_append {whole after : List Char} (isWhole : IsWhole whole)
    (ends : ∀ next ∈ after.head?, ¬next.isDigit) :
    readWhole (whole ++ after) = some (whole, after) := by
  cases isWhole with
  | zero =>
      have taken : takeDigits (['0'] ++ after) = (['0'], after) :=
        takeDigits_eq_iff.mpr ⟨rfl, by simp [AreDigits], ends⟩
      simp only [readWhole, taken]
  | @positive first rest notZero areDigits =>
      have taken : takeDigits (first :: rest ++ after) = (first :: rest, after) :=
        takeDigits_eq_iff.mpr ⟨rfl, areDigits, ends⟩
      simp only [readWhole, taken]
      split <;> simp_all

theorem isWhole_of_readWhole {ahead whole after : List Char}
    (read : readWhole ahead = some (whole, after)) : ahead = whole ++ after ∧ IsWhole whole := by
  revert read
  fun_cases readWhole ahead with
  | case1 => simp
  | case2 => simp
  | case3 nonempty noZero =>
      intro read
      rcases takeDigits_eq_iff.mp (Option.some.inj read) with ⟨split, areDigits, -⟩
      refine ⟨split, ?_⟩
      cases whole with
      | nil => exact absurd (Option.some.inj read) (nonempty after)
      | cons first rest =>
          by_cases zero : first = '0'
          · cases rest with
            | nil => exact zero ▸ .zero
            | cons second others =>
                exact absurd (zero ▸ Option.some.inj read) (noZero second others after)
          · exact .positive zero areDigits

theorem readFraction_append {fraction after : List Char} (isFraction : IsFraction fraction)
    (ends : ∀ next ∈ after.head?, ¬next.isDigit ∧ next ≠ '.') :
    readFraction (fraction ++ after) = some (fraction, after) := by
  cases isFraction with
  | absent =>
      cases after with
      | nil => rfl
      | cons next rest =>
          have notPoint := (ends next rfl).2
          rw [List.nil_append, readFraction]
          simp [notPoint]
  | @point digits nonempty areDigits =>
      have taken : takeDigits (digits ++ after) = (digits, after) :=
        takeDigits_eq_iff.mpr ⟨rfl, areDigits, fun next mem => (ends next mem).1⟩
      rw [List.cons_append, readFraction, taken]
      cases digits with
      | nil => exact absurd rfl nonempty
      | cons first rest => rfl

theorem isFraction_of_readFraction {ahead fraction after : List Char}
    (read : readFraction ahead = some (fraction, after)) :
    ahead = fraction ++ after ∧ IsFraction fraction := by
  revert read
  fun_cases readFraction ahead with
  | case1 => simp
  | case2 ahead digits rest nonempty taken =>
      rintro ⟨⟩
      rcases takeDigits_eq_iff.mp taken with ⟨rfl, areDigits, -⟩
      exact ⟨rfl, .point nonempty areDigits⟩
  | case3 =>
      rintro ⟨⟩
      exact ⟨rfl, .absent⟩

theorem readExponent_append {exponent after : List Char} (isExponent : IsExponent exponent)
    (ends : ∀ next ∈ after.head?, ¬next.isDigit ∧ next ≠ 'e' ∧ next ≠ 'E') :
    readExponent (exponent ++ after) = some (exponent, after) := by
  cases isExponent with
  | absent =>
      cases after with
      | nil => rfl
      | cons next rest =>
          have notMark := (ends next rfl).2
          simp [readExponent, notMark]
  | @mark mark sign digits isMark isSign nonempty areDigits =>
      have taken : takeDigits (digits ++ after) = (digits, after) :=
        takeDigits_eq_iff.mpr ⟨rfl, areDigits, fun next mem => (ends next mem).1⟩
      rcases isSign with rfl | rfl | rfl
      · cases digits with
        | nil => exact absurd rfl nonempty
        | cons first rest =>
            have notPlus : first ≠ '+' := areDigits.head_ne (by decide)
            have notMinus : first ≠ '-' := areDigits.head_ne (by decide)
            simp_all [readExponent]
      · simp [readExponent, isMark, taken]
      · simp [readExponent, isMark, taken]

theorem isExponent_of_readExponent {ahead exponent after : List Char}
    (read : readExponent ahead = some (exponent, after)) :
    ahead = exponent ++ after ∧ IsExponent exponent := by
  revert read
  fun_cases readExponent ahead with
  | case1 => simp
  | case2 mark next isMark sign rest signed digits afterDigits nonempty taken =>
      rintro ⟨⟩
      rcases takeDigits_eq_iff.mp taken with ⟨rfl, areDigits, -⟩
      have isSign : next = sign ++ (digits ++ after) ∧ (sign = [] ∨ sign = ['+'] ∨ sign = ['-']) := by
        split at signed <;> cases signed <;> simp
      rcases isSign with ⟨rfl, isSign⟩
      exact ⟨by simp, .mark isMark isSign nonempty areDigits⟩
  | case3 =>
      rintro ⟨⟩
      exact ⟨rfl, .absent⟩
  | case4 =>
      rintro ⟨⟩
      exact ⟨rfl, .absent⟩

/-! ## Numbers with all their parts -/

theorem IsFraction.of_mem_head? {fraction : List Char} {next : Char}
    (isFraction : IsFraction fraction) (mem : next ∈ fraction.head?) : next = '.' := by
  cases isFraction with
  | absent => simp at mem
  | point nonempty areDigits => simpa [eq_comm] using mem

theorem IsExponent.of_mem_head? {exponent : List Char} {next : Char}
    (isExponent : IsExponent exponent) (mem : next ∈ exponent.head?) : next = 'e' ∨ next = 'E' := by
  cases isExponent with
  | absent => simp at mem
  | mark isMark isSign nonempty areDigits =>
      obtain rfl : _ = next := by simpa using mem
      exact isMark

theorem mem_head?_append {left right : List Char} {next : Char}
    (mem : next ∈ (left ++ right).head?) : next ∈ left.head? ∨ next ∈ right.head? := by
  cases left with
  | nil => exact .inr mem
  | cons first rest => exact .inl mem

theorem Ends.exponent {exponent after : List Char} (ends : Ends after)
    (isExponent : IsExponent exponent) :
    ∀ next ∈ (exponent ++ after).head?, ¬next.isDigit ∧ next ≠ '.' := by
  intro next mem
  rcases mem_head?_append mem with mem | mem
  · rcases isExponent.of_mem_head? mem with rfl | rfl <;> decide
  · exact ⟨(ends next mem).1, (ends next mem).2.1⟩

theorem Ends.fraction {fraction exponent after : List Char} (ends : Ends after)
    (isFraction : IsFraction fraction) (isExponent : IsExponent exponent) :
    ∀ next ∈ (fraction ++ (exponent ++ after)).head?, ¬next.isDigit := by
  intro next mem
  rcases mem_head?_append mem with mem | mem
  · rw [isFraction.of_mem_head? mem]
    decide
  · exact (ends.exponent isExponent next mem).1

theorem IsWhole.head {whole : List Char} (isWhole : IsWhole whole) :
    ∃ first rest, whole = first :: rest ∧ first.isDigit := by
  cases isWhole with
  | zero => exact ⟨_, _, rfl, rfl⟩
  | positive notZero areDigits => exact ⟨_, _, rfl, areDigits _ List.mem_cons_self⟩

theorem IsWhole.ne_minus {whole after rest : List Char} (isWhole : IsWhole whole) :
    whole ++ after ≠ '-' :: rest := by
  rcases isWhole.head with ⟨first, others, rfl, isDigit⟩
  intro same
  rw [List.head_eq_of_cons_eq same] at isDigit
  simp at isDigit

/-- A number starts with its sign or with a digit. -/
theorem IsNumber.head {spelling : List Char} (isNumber : IsNumber spelling) :
    ∃ first rest, spelling = first :: rest ∧
      ∀ letter : Char, letter ≠ '-' → letter.isDigit = false → first ≠ letter := by
  cases isNumber with
  | parts isSign isWhole isFraction isExponent =>
      rcases isSign with rfl | rfl
      · rcases isWhole.head with ⟨first, rest, rfl, isDigit⟩
        refine ⟨first, _, rfl, ?_⟩
        rintro letter - noDigit rfl
        simp [noDigit] at isDigit
      · refine ⟨'-', _, rfl, ?_⟩
        intro letter notMinus _
        exact notMinus.symm

theorem readNumber_append {spelling after : List Char} (isNumber : IsNumber spelling)
    (ends : Ends after) :
    readNumber (spelling ++ after) = some (.number (String.ofList spelling), after) := by
  cases isNumber with
  | @parts sign whole fraction exponent isSign isWhole isFraction isExponent =>
      have exponentRead : readExponent (exponent ++ after) = some (exponent, after) :=
        readExponent_append isExponent (fun next mem => ⟨(ends next mem).1, (ends next mem).2.2⟩)
      have fractionRead := readFraction_append isFraction (ends.exponent isExponent)
      have wholeRead := readWhole_append isWhole (ends.fraction isFraction isExponent)
      rcases isSign with rfl | rfl
      · simp only [List.nil_append, List.append_assoc, readNumber]
        split
        · next same => exact absurd same isWhole.ne_minus
        · simp [wholeRead, fractionRead, exponentRead]
      · simp [readNumber, wholeRead, fractionRead, exponentRead]

theorem isNumber_of_readNumber {ahead after : List Char} {value : Value}
    (read : readNumber ahead = some (value, after)) :
    ∃ spelling, value = .number (String.ofList spelling) ∧ ahead = spelling ++ after ∧
      IsNumber spelling := by
  unfold readNumber at read
  split at read
  next sign unsigned signed =>
    simp only [Option.bind_eq_bind, Option.bind_eq_some_iff, Option.pure_def, Option.some.injEq,
      Prod.exists] at read
    rcases read with ⟨whole, afterWhole, wholeRead, fraction, afterFraction, fractionRead,
      exponent, rest, exponentRead, result⟩
    cases result
    rcases isWhole_of_readWhole wholeRead with ⟨rfl, isWhole⟩
    rcases isFraction_of_readFraction fractionRead with ⟨rfl, isFraction⟩
    rcases isExponent_of_readExponent exponentRead with ⟨rfl, isExponent⟩
    have split : ahead = sign ++ (whole ++ (fraction ++ (exponent ++ after))) ∧
        (sign = [] ∨ sign = ['-']) := by
      split at signed <;> cases signed <;> simp
    rcases split with ⟨rfl, isSign⟩
    exact ⟨_, rfl, by simp, .parts isSign isWhole isFraction isExponent⟩

end ParamRules.Json
