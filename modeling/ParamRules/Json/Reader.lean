import ParamRules.Json.Value
import ParamRules.Text.Hexadecimal

/-!
# Reading JSON

A strict reader of RFC 8259: no comment, no trailing comma, no leading zero, no control character
inside a text, no half of a surrogate pair on its own, and nothing but blanks after the value.

Each reader takes the characters ahead and gives what it read with the characters after it. The
readers of nested values count down from a bound on the depth of nesting, for which the length of
the text is always enough.
-/

namespace ParamRules.Json

/-- The characters that may stand between the parts of a value. -/
def isBlank (character : Char) : Bool :=
  character == ' ' || character == '\t' || character == '\n' || character == '\r'

def skipBlanks (ahead : List Char) : List Char :=
  ahead.dropWhile isBlank

/-- The character that a backslash and this character stand for. -/
def shortEscape? : Char → Option Char
  | '"' => some '"'
  | '\\' => some '\\'
  | '/' => some '/'
  | 'b' => some '\x08'
  | 'f' => some '\x0c'
  | 'n' => some '\n'
  | 'r' => some '\r'
  | 't' => some '\t'
  | _ => none

/-- The character of one unit of UTF-16 that is no half of a pair. -/
def ofUnit? (unit : Nat) : Option Char :=
  if 0xd800 ≤ unit ∧ unit < 0xe000 then none else some (Char.ofNat unit)

/-- The character of a pair of surrogate units, the high one first. -/
def ofUnits? (high low : Nat) : Option Char :=
  if 0xd800 ≤ high ∧ high < 0xdc00 ∧ 0xdc00 ≤ low ∧ low < 0xe000 then
    some (Char.ofNat (0x10000 + 1024 * (high - 0xd800) + (low - 0xdc00)))
  else none

def prepend (character : Char) (read : List Char × List Char) : List Char × List Char :=
  (character :: read.1, read.2)

/-- Reads the rest of a text, up to and including the closing quote. -/
def readText : List Char → Option (List Char × List Char)
  | [] => none
  | '"' :: after => some ([], after)
  | '\\' :: 'u' :: a :: b :: c :: d :: '\\' :: 'u' :: e :: f :: g :: h :: after => do
      let unit ← Text.Hexadecimal.read? [a, b, c, d]
      match ofUnit? unit with
      | some character =>
          return prepend character (← readText ('\\' :: 'u' :: e :: f :: g :: h :: after))
      | none => do
          let character ← ofUnits? unit (← Text.Hexadecimal.read? [e, f, g, h])
          return prepend character (← readText after)
  | '\\' :: 'u' :: a :: b :: c :: d :: after => do
      let character ← ofUnit? (← Text.Hexadecimal.read? [a, b, c, d])
      return prepend character (← readText after)
  | '\\' :: letter :: after => do
      let character ← shortEscape? letter
      return prepend character (← readText after)
  | character :: after =>
      if character.toNat < 0x20 ∨ character = '\\' then none
      else (readText after).map (prepend character)
termination_by ahead => ahead.length

def takeDigits (ahead : List Char) : List Char × List Char :=
  ahead.span Char.isDigit

/-- Reads the digits before the decimal point: a zero alone, or digits that start with no zero. -/
def readWhole (ahead : List Char) : Option (List Char × List Char) :=
  match takeDigits ahead with
  | ([], _) => none
  | ('0' :: _ :: _, _) => none
  | whole => some whole

/-- Reads a decimal point and the digits after it, if there is a point. -/
def readFraction : List Char → Option (List Char × List Char)
  | '.' :: ahead =>
      match takeDigits ahead with
      | ([], _) => none
      | (digits, after) => some ('.' :: digits, after)
  | ahead => some ([], ahead)

def readExponent (ahead : List Char) : Option (List Char × List Char) :=
  match ahead with
  | mark :: next =>
      if mark = 'e' ∨ mark = 'E' then
        let (sign, rest) := match next with
          | '+' :: rest => (['+'], rest)
          | '-' :: rest => (['-'], rest)
          | rest => ([], rest)
        match takeDigits rest with
        | ([], _) => none
        | (digits, after) => some (mark :: sign ++ digits, after)
      else some ([], ahead)
  | [] => some ([], [])

def readNumber (ahead : List Char) : Option (Value × List Char) := do
  let (sign, unsigned) := match ahead with
    | '-' :: rest => (['-'], rest)
    | rest => ([], rest)
  let (whole, afterWhole) ← readWhole unsigned
  let (fraction, afterFraction) ← readFraction afterWhole
  let (exponent, after) ← readExponent afterFraction
  return (.number (String.ofList (sign ++ whole ++ fraction ++ exponent)), after)

mutual

/-- Reads a value that starts with the first character ahead. -/
def readValue : (depth : Nat) → List Char → Option (Value × List Char)
  | 0, _ => none
  | depth + 1, ahead =>
      match ahead with
      | 'n' :: 'u' :: 'l' :: 'l' :: after => some (.null, after)
      | 't' :: 'r' :: 'u' :: 'e' :: after => some (.bool true, after)
      | 'f' :: 'a' :: 'l' :: 's' :: 'e' :: after => some (.bool false, after)
      | '"' :: next => do
          let (text, after) ← readText next
          return (.string (String.ofList text), after)
      | '[' :: next =>
          match skipBlanks next with
          | ']' :: after => some (.array [], after)
          | items => do
              let (read, after) ← readItems depth items
              return (.array read, after)
      | '{' :: next =>
          match skipBlanks next with
          | '}' :: after => some (.object [], after)
          | members => do
              let (read, after) ← readMembers depth members
              return (.object read, after)
      | _ => readNumber ahead

/-- Reads the items of an array, from the first character of an item to the closing bracket. -/
def readItems : (depth : Nat) → List Char → Option (List Value × List Char)
  | 0, _ => none
  | depth + 1, ahead => do
      let (item, next) ← readValue depth ahead
      match skipBlanks next with
      | ']' :: after => return ([item], after)
      | ',' :: more =>
          let (items, after) ← readItems depth (skipBlanks more)
          return (item :: items, after)
      | _ => none

/-- Reads the members of an object, from the quote of a name to the closing brace. -/
def readMembers : (depth : Nat) → List Char → Option (List (String × Value) × List Char)
  | 0, _ => none
  | depth + 1, ahead =>
      match ahead with
      | '"' :: start => do
          let (name, afterName) ← readText start
          match skipBlanks afterName with
          | ':' :: beforeValue =>
              let (value, next) ← readValue depth (skipBlanks beforeValue)
              let member := (String.ofList name, value)
              match skipBlanks next with
              | '}' :: after => return ([member], after)
              | ',' :: more =>
                  let (members, after) ← readMembers depth (skipBlanks more)
                  return (member :: members, after)
              | _ => none
          | _ => none
      | _ => none

end

/-- The value that a text is, if the text is one JSON value with blanks around it. -/
def read? (text : String) : Option Value := do
  let ahead := skipBlanks text.toList
  let (value, after) ← readValue (ahead.length + 1) ahead
  guard (skipBlanks after).isEmpty
  return value

end ParamRules.Json
