import Mathlib.Data.Nat.Digits.Defs
import ParamRules.Text.Integer

/-!
# Integers are read as they are spelled

A text denotes an integer exactly when it is a spelling of it, a row of decimal digits with at most
one sign before it, and the integer is in the range of 64 bits (`read?_eq_some_iff`). An integer has
many spellings, one for each number of leading zeros. The plain spelling, a row of digits after a
minus sign if the integer is negative, is the one that is written: reading it gives the integer back
over the whole range, both ends included, and nothing outside of it (`read?_write`).
-/

namespace ParamRules.Text.Integer

/-- An integer that fits in 64 bits. -/
def Fits (integer : Int) : Prop :=
  least ≤ integer ∧ integer ≤ greatest

instance (integer : Int) : Decidable (Fits integer) :=
  inferInstanceAs (Decidable (least ≤ integer ∧ integer ≤ greatest))

theorem isDigit_ofNat : ∀ number, number < 10 →
    (Char.ofNat ('0'.toNat + number)).isDigit = true := by
  decide

theorem toNat_ofNat : ∀ number, number < 10 →
    (Char.ofNat ('0'.toNat + number)).toNat - '0'.toNat = number := by
  decide

theorem isDigit_of_mem_digits {number : Nat} {character : Char}
    (mem : character ∈ digits number) : character.isDigit = true := by
  induction number using digits.induct with
  | case1 number small =>
      rw [digits, if_pos small, List.mem_singleton] at mem
      rw [mem]
      exact isDigit_ofNat number small
  | case2 number large ih =>
      rw [digits, if_neg large, List.mem_append, List.mem_singleton] at mem
      rcases mem with earlier | rfl
      · exact ih earlier
      · exact isDigit_ofNat _ (Nat.mod_lt number (by decide))

theorem digits_ne_nil (number : Nat) : digits number ≠ [] := by
  rw [digits]
  split <;> simp

theorem ofDigits_digits (number : Nat) : ofDigits (digits number) = number := by
  induction number using digits.induct with
  | case1 number small =>
      rw [digits, if_pos small]
      simp only [ofDigits, List.foldl_cons, List.foldl_nil]
      rw [toNat_ofNat number small, Nat.mul_zero, Nat.zero_add]
  | case2 number large ih =>
      have last := toNat_ofNat (number % 10) (Nat.mod_lt number (by decide))
      simp only [ofDigits] at ih
      rw [digits, if_neg large]
      simp only [ofDigits, List.foldl_append, List.foldl_cons, List.foldl_nil, ih, last]
      exact Nat.div_add_mod number 10

theorem readDigits?_digits (number : Nat) : readDigits? (digits number) = some number := by
  have allDigits : (digits number).all Char.isDigit = true := by
    rw [List.all_eq_true]
    exact fun character mem => isDigit_of_mem_digits mem
  rw [readDigits?, if_pos ⟨digits_ne_nil number, allDigits⟩, ofDigits_digits]

theorem readSigned?_digits (number : Nat) :
    readSigned? (digits number) = some (Int.ofNat number) := by
  have read := readDigits?_digits number
  have noSign : ∀ sign ∈ digits number, sign ≠ '+' ∧ sign ≠ '-' := by
    intro sign mem
    have digit := isDigit_of_mem_digits mem
    constructor
    · rintro rfl
      cases digit
    · rintro rfl
      cases digit
  unfold readSigned?
  split
  · rename_i shape
    exact absurd rfl (noSign '+' (by rw [shape]; exact List.mem_cons_self)).1
  · rename_i shape
    exact absurd rfl (noSign '-' (by rw [shape]; exact List.mem_cons_self)).2
  · rw [read]
    rfl

theorem toList_write_negSucc (number : Nat) :
    (write (.negSucc number)).toList = '-' :: digits (number + 1) := by
  simp [write, writeNat]

theorem readSigned?_write (integer : Int) : readSigned? (write integer).toList = some integer := by
  cases integer with
  | ofNat number => rw [write, writeNat, String.toList_ofList, readSigned?_digits]
  | negSucc number =>
      rw [toList_write_negSucc]
      simp only [readSigned?, readDigits?_digits]
      rfl

/-- A plain spelling is read as the integer that it spells, if that fits in 64 bits. -/
theorem read?_write (integer : Int) :
    read? (write integer) = if Fits integer then some integer else none := by
  rw [read?, readSigned?_write, Option.filter_some]
  simp only [decide_eq_true_eq]
  rfl

theorem eq_minus_or_isDigit_of_mem_write {integer : Int} {character : Char}
    (mem : character ∈ (write integer).toList) : character = '-' ∨ character.isDigit = true := by
  cases integer with
  | ofNat number =>
      rw [write, writeNat, String.toList_ofList] at mem
      exact Or.inr (isDigit_of_mem_digits mem)
  | negSucc number =>
      rw [toList_write_negSucc, List.mem_cons] at mem
      exact mem.imp_right isDigit_of_mem_digits

theorem ofNat_eq_digitChar {digit : Nat} (decimal : digit < 10) :
    Char.ofNat ('0'.toNat + digit) = digit.digitChar := by
  revert digit
  decide

theorem writeNat_eq_toString (number : Nat) : writeNat number = toString number := by
  rw [writeNat]
  induction number using digits.induct with
  | case1 number small =>
      rw [digits, if_pos small, ofNat_eq_digitChar small]
      exact (Nat.repr_of_lt small).symm
  | case2 number large ih =>
      have decimal : number % 10 < 10 := Nat.mod_lt _ (by decide)
      rw [digits, if_neg large, String.ofList_append, ih, ofNat_eq_digitChar decimal]
      exact (Nat.repr_of_ge (by omega)).symm

theorem write_ne_empty (integer : Int) : write integer ≠ "" := by
  intro empty
  have read := readSigned?_write integer
  rw [empty] at read
  cases read

/-! ## All spellings -/

/-- A row of decimal digits and the number that they have by their places. The digits of the number
are listed from the last place to the first. -/
inductive IsRow : List Char → Nat → Prop where
  | digits {digits : List Nat} (nonempty : digits ≠ []) (decimal : ∀ digit ∈ digits, digit < 10) :
      IsRow (digits.reverse.map Nat.digitChar) (Nat.ofDigits 10 digits)

/-- The spelling of an integer: a row of digits with at most one sign before it. -/
inductive IsNumeral : List Char → Int → Prop where
  | plain {row : List Char} {number : Nat} (isRow : IsRow row number) : IsNumeral row number
  | plus {row : List Char} {number : Nat} (isRow : IsRow row number) : IsNumeral ('+' :: row) number
  | minus {row : List Char} {number : Nat} (isRow : IsRow row number) :
      IsNumeral ('-' :: row) (-number)

theorem digitChar_sub {character : Char} (isDigit : character.isDigit = true) :
    character.toNat - '0'.toNat < 10 ∧
      Nat.digitChar (character.toNat - '0'.toNat) = character := by
  have range : 48 ≤ character.toNat ∧ character.toNat ≤ 57 := Char.isDigit_iff_toNat.1 isDigit
  have zero : '0'.toNat = 48 := rfl
  have small : character.toNat - 48 < 10 := by omega
  rw [zero, ← Char.toNat_inj, Nat.toNat_digitChar_of_lt_ten small]
  omega

theorem ofDigits_map_digitChar {digits : List Nat} (decimal : ∀ digit ∈ digits, digit < 10) :
    ofDigits (digits.reverse.map Nat.digitChar) = Nat.ofDigits 10 digits := by
  induction digits with
  | nil => rfl
  | cons digit rest ih =>
      have last : (Nat.digitChar digit).toNat - '0'.toNat = digit := by
        rw [Nat.toNat_digitChar_of_lt_ten (decimal digit (by simp))]
        exact Nat.add_sub_cancel_left _ _
      have front := ih fun other mem => decimal other (by simp [mem])
      rw [ofDigits] at front ⊢
      rw [List.reverse_cons, List.map_append, List.foldl_append, front, Nat.ofDigits_cons]
      simp only [List.map_cons, List.map_nil, List.foldl_cons, List.foldl_nil, last]
      exact Nat.add_comm _ _

theorem IsRow.areDigits {row : List Char} {number : Nat} (isRow : IsRow row number) :
    ∀ character ∈ row, character.isDigit = true := by
  rcases isRow with ⟨_, decimal⟩
  intro character mem
  rcases List.mem_map.1 mem with ⟨digit, digitMem, rfl⟩
  simpa using decimal digit (by simpa using digitMem)

theorem readDigits?_eq_some_iff {row : List Char} {number : Nat} :
    readDigits? row = some number ↔ IsRow row number := by
  constructor
  · intro read
    rw [readDigits?, Option.ite_none_right_eq_some, List.all_eq_true, Option.some.injEq] at read
    rcases read with ⟨⟨nonempty, areDigits⟩, rfl⟩
    let digits := (row.map fun character => character.toNat - '0'.toNat).reverse
    have spelled : digits.reverse.map Nat.digitChar = row := by
      rw [List.reverse_reverse, List.map_map, List.map_congr_left, List.map_id]
      intro character mem
      exact (digitChar_sub (areDigits character mem)).2
    have decimal : ∀ digit ∈ digits, digit < 10 := by
      intro digit mem
      rcases List.mem_map.1 (List.mem_reverse.1 mem) with ⟨character, characterMem, rfl⟩
      exact (digitChar_sub (areDigits character characterMem)).1
    have isRow : IsRow (digits.reverse.map Nat.digitChar) (Nat.ofDigits 10 digits) :=
      .digits (by simpa [digits] using nonempty) decimal
    rwa [← ofDigits_map_digitChar decimal, spelled] at isRow
  · intro isRow
    have areDigits := isRow.areDigits
    rcases isRow with ⟨nonempty, decimal⟩
    rw [readDigits?, if_pos, ofDigits_map_digitChar decimal]
    exact ⟨by simpa using nonempty, List.all_eq_true.2 areDigits⟩

theorem readSigned?_eq_some_iff {text : List Char} {integer : Int} :
    readSigned? text = some integer ↔ IsNumeral text integer := by
  constructor
  · intro read
    unfold readSigned? at read
    split at read
    all_goals
      rcases Option.map_eq_some_iff.1 read with ⟨number, isRow, rfl⟩
      rw [readDigits?_eq_some_iff] at isRow
    · exact .plus isRow
    · exact .minus isRow
    · exact .plain isRow
  · intro isNumeral
    cases isNumeral with
    | plus isRow =>
        rw [readSigned?, readDigits?_eq_some_iff.2 isRow]
        rfl
    | minus isRow =>
        rw [readSigned?, readDigits?_eq_some_iff.2 isRow]
        rfl
    | plain isRow =>
        have areDigits := isRow.areDigits
        unfold readSigned?
        split
        · exact absurd (areDigits '+' List.mem_cons_self) (by decide)
        · exact absurd (areDigits '-' List.mem_cons_self) (by decide)
        · rw [readDigits?_eq_some_iff.2 isRow]
          rfl

/-- A text denotes an integer of 64 bits exactly when it is a spelling of it. -/
theorem read?_eq_some_iff {text : String} {integer : Int} :
    read? text = some integer ↔ IsNumeral text.toList integer ∧ Fits integer := by
  rw [read?, Option.filter_eq_some_iff, readSigned?_eq_some_iff]
  simp only [decide_eq_true_eq]
  rfl

end ParamRules.Text.Integer
