/-!
# 64-bit integers as text

An integer is written as an optional sign and one or more decimal digits, with any number of
leading zeros, and must fit in 64 bits. Thresholds and parameter values are compared as such
integers, never as spellings. `read?` reads one and `write` writes the plain spelling: no plus
sign and no leading zero.
-/

namespace ParamRules.Text.Integer

def least : Int := -0x8000000000000000

def greatest : Int := 0x7fffffffffffffff

def ofDigits (digits : List Char) : Nat :=
  digits.foldl (fun number digit => 10 * number + (digit.toNat - '0'.toNat)) 0

/-- The number of a row of one or more decimal digits, and nothing else. -/
def readDigits? (digits : List Char) : Option Nat :=
  if digits ≠ [] ∧ digits.all Char.isDigit then some (ofDigits digits) else none

/-- The integer of an optional sign and a row of digits, of any size. -/
def readSigned? : List Char → Option Int
  | '+' :: digits => (readDigits? digits).map Int.ofNat
  | '-' :: digits => (readDigits? digits).map fun magnitude => -Int.ofNat magnitude
  | digits => (readDigits? digits).map Int.ofNat

/-- The 64-bit integer that a text denotes, if it denotes one. -/
def read? (text : String) : Option Int :=
  (readSigned? text.toList).filter fun integer => least ≤ integer ∧ integer ≤ greatest

/-- The decimal digits of a number, without leading zeros. -/
def digits (number : Nat) : List Char :=
  if number < 10 then [Char.ofNat ('0'.toNat + number)]
  else digits (number / 10) ++ [Char.ofNat ('0'.toNat + number % 10)]

def writeNat (number : Nat) : String :=
  String.ofList (digits number)

def write : Int → String
  | .ofNat number => writeNat number
  | .negSucc number => "-" ++ writeNat (number + 1)

end ParamRules.Text.Integer
