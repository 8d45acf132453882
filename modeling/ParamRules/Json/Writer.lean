import ParamRules.Json.Value
import ParamRules.Text.Hexadecimal

/-!
# Writing JSON

The compact form: no space between the parts. In a text, the quote, the backslash and the control
characters are escaped, by their short escapes where there are such and by four hexadecimal digits
otherwise; every other character stands for itself.
-/

namespace ParamRules.Json

/-- A character as it stands inside a written text. -/
def escape (character : Char) : List Char :=
  match character with
  | '"' => ['\\', '"']
  | '\\' => ['\\', '\\']
  | '\x08' => ['\\', 'b']
  | '\x0c' => ['\\', 'f']
  | '\n' => ['\\', 'n']
  | '\r' => ['\\', 'r']
  | '\t' => ['\\', 't']
  | _ =>
      let code := character.toNat
      if code < 0x20 then ['\\', 'u', '0', '0', Text.Hexadecimal.digit (code / 16),
        Text.Hexadecimal.digit (code % 16)]
      else [character]

def writeString (text : String) : List Char :=
  '"' :: text.toList.flatMap escape ++ ['"']

mutual

def writeValue : Value → List Char
  | .null => "null".toList
  | .bool true => "true".toList
  | .bool false => "false".toList
  | .number text => text.toList
  | .string text => writeString text
  | .array items => '[' :: writeItems items ++ [']']
  | .object members => '{' :: writeMembers members ++ ['}']

def writeItems : List Value → List Char
  | [] => []
  | [item] => writeValue item
  | item :: items => writeValue item ++ ',' :: writeItems items

def writeMembers : List (String × Value) → List Char
  | [] => []
  | [(name, value)] => writeString name ++ ':' :: writeValue value
  | (name, value) :: members =>
      writeString name ++ ':' :: writeValue value ++ ',' :: writeMembers members

end

/-- A value in compact form. -/
def Value.write (value : Value) : String :=
  String.ofList (writeValue value)

end ParamRules.Json
