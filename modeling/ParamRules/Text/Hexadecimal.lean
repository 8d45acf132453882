/-!
# Hexadecimal digits

Escapes in texts name characters by their hexadecimal code. Digits are written in lower case and
read in either case.
-/

namespace ParamRules.Text.Hexadecimal

def digit (number : Nat) : Char :=
  if number < 10 then Char.ofNat ('0'.toNat + number)
  else Char.ofNat ('a'.toNat + (number - 10))

def value? (digit : Char) : Option Nat :=
  if '0' ≤ digit ∧ digit ≤ '9' then some (digit.toNat - '0'.toNat)
  else if 'a' ≤ digit ∧ digit ≤ 'f' then some (digit.toNat - 'a'.toNat + 10)
  else if 'A' ≤ digit ∧ digit ≤ 'F' then some (digit.toNat - 'A'.toNat + 10)
  else none

def read? (digits : List Char) : Option Nat :=
  digits.foldlM (fun number digit => (value? digit).map (16 * number + ·)) 0

/-- The digits of a number, without leading zeros. -/
def digits (number : Nat) : List Char :=
  if number < 16 then [digit number]
  else digits (number / 16) ++ [digit (number % 16)]

end ParamRules.Text.Hexadecimal
