import ParamRules.Text.Hexadecimal
import ParamRules.Text.Integer
import ParamRules.Yaml.Node

/-!
# What YAML nodes mean

A node is read as what its place asks for. Where a text is asked for, every scalar gives its text as
it is written, so that `25` and `~` are texts there. Where a truth value is asked for, only a plain
scalar that spells one will do. Where anything may stand, the core schema of YAML 1.2 decides what a
plain scalar is: null, a truth value, a number or a text.

Nothing at all counts as an empty sequence and as an empty mapping; a null does not.
-/

namespace ParamRules.Yaml

def spellsNull (text : String) : Bool :=
  ["null", "Null", "NULL", "~"].contains text

def spelledBool? (text : String) : Option Bool :=
  if ["true", "True", "TRUE"].contains text then some true
  else if ["false", "False", "FALSE"].contains text then some false
  else none

/-! ## Numbers -/

def unsigned : List Char → List Char
  | '+' :: rest | '-' :: rest => rest
  | text => text

/-- The number of a row of one or more digits to a base of at most sixteen. -/
def readRadix? (base : Nat) (digits : List Char) : Option Nat :=
  if digits.isEmpty then none
  else digits.foldlM
    (fun number digit =>
      (Text.Hexadecimal.value? digit).filter (· < base) |>.map (base * number + ·)) 0

/-- The size of an integer to the base that `0x`, `0o` or `0b` announces. -/
def readAnnounced? : List Char → Option Nat
  | '0' :: 'x' :: digits => readRadix? 16 digits
  | '0' :: 'o' :: digits => readRadix? 8 digits
  | '0' :: 'b' :: digits => readRadix? 2 digits
  | _ => none

/-- Whether a text spells an integer of 128 bits to an announced base. -/
def spellsAnnounced : List Char → Bool
  | '-' :: text => (readAnnounced? text).any (· ≤ Nat.pow 2 127)
  | '+' :: text => (readAnnounced? text).any (· < Nat.pow 2 128)
  | text => (readAnnounced? text).any (· < Nat.pow 2 128)

/-- A decimal number: its digits and the power of ten that they are multiplied by. -/
structure Decimal where
  digits : Nat
  exponent : Int

namespace Decimal

/-- Reads the power of ten at the end of a decimal number. -/
def readExponent? : List Char → Option Int
  | [] => some 0
  | mark :: rest =>
      if mark = 'e' ∨ mark = 'E' then Text.Integer.readSigned? rest else none

/-- Reads a decimal number without its sign: digits before or after a point, or both, and possibly
an exponent. -/
def read? (text : List Char) : Option Decimal := do
  let (whole, afterWhole) := text.span Char.isDigit
  let (fraction, afterFraction) := match afterWhole with
    | '.' :: rest => rest.span Char.isDigit
    | rest => ([], rest)
  guard !(whole.isEmpty && fraction.isEmpty)
  let exponent ← readExponent? afterFraction
  return {
    digits := Text.Integer.ofDigits (whole ++ fraction)
    exponent := exponent - fraction.length }

/-- Whether a decimal number rounds to a finite number of 64 bits, which is so below the middle
between the greatest of them and the next power of two. Numbers far from that middle are told by
their count of digits. -/
def isFinite (decimal : Decimal) : Bool :=
  let limit := Nat.pow 2 1024 - Nat.pow 2 970
  let magnitude := (Text.Integer.digits decimal.digits).length + decimal.exponent
  if decimal.digits = 0 ∨ magnitude ≤ 308 then true
  else if 310 < magnitude then false
  else match decimal.exponent with
    | .ofNat power => decimal.digits * Nat.pow 10 power < limit
    | .negSucc power => decimal.digits < limit * Nat.pow 10 (power + 1)

end Decimal

/-- Whether a text consists of digits that start with a zero, which makes it no number. -/
def isPadded (digits : List Char) : Bool :=
  1 < digits.length && digits.head? == some '0' && digits.all Char.isDigit

def spellsDecimal (text : List Char) : Bool :=
  !isPadded (unsigned text) && (Decimal.read? (unsigned text)).any Decimal.isFinite

def spellsNumber (text : String) : Bool :=
  spellsAnnounced text.toList || spellsDecimal text.toList
    || [".inf", ".Inf", ".INF", "+.inf", "+.Inf", "+.INF", "-.inf", "-.Inf", "-.INF",
        ".nan", ".NaN", ".NAN"].contains text

/-! ## Nodes -/

namespace Node

def text? : Node → Option String
  | scalar _ text => some text
  | _ => none

/-- The text of a scalar, if it is not the spelling of anything else. -/
def properText? : Node → Option String
  | scalar .quoted text => some text
  | scalar .plain text =>
      if text = "" || spellsNull text || (spelledBool? text).isSome || spellsNumber text then none
      else some text
  | _ => none

/-- The text of a scalar, or that there is none: nothing or null. -/
def optionalText? : Node → Option (Option String)
  | scalar .plain text => if text = "" || spellsNull text then some none else some (some text)
  | scalar .quoted text => some (some text)
  | _ => none

def bool? : Node → Option Bool
  | scalar .plain text => spelledBool? text
  | _ => none

def items? : Node → Option (List Node)
  | sequence items => some items
  | scalar .plain "" => some []
  | _ => none

def entries? : Node → Option (List (Node × Node))
  | mapping entries => some entries
  | scalar .plain "" => some []
  | _ => none

/-- The entries of a mapping whose keys are texts. -/
def members? (node : Node) : Option (List (String × Node)) := do
  (← node.entries?).mapM fun entry => entry.1.text?.map fun name => (name, entry.2)

def texts? (node : Node) : Option (List String) := do
  (← node.items?).mapM text?

end Node

/-! ## Members -/

/-- The value of a required member that must occur once. -/
def requiredMember? {α : Type} (members : List (String × Node)) (name : String)
    (read : Node → Option α) : Option α :=
  match members.filter (·.1 == name) with
  | [member] => read member.2
  | _ => none

/-- The value of a member that may occur once, or a default. -/
def optionalMember? {α : Type} (members : List (String × Node)) (name : String)
    (read : Node → Option α) (default : α) : Option α :=
  match members.filter (·.1 == name) with
  | [] => some default
  | [member] => read member.2
  | _ => none

end ParamRules.Yaml
