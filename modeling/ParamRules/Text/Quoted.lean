import ParamRules.Text.Hexadecimal
import ParamRules.Text.Shapeless

/-!
# Quoted texts in reports

A report of a test shows every text between quotes, so that one can see where it starts and ends and
what it holds. Quotes, backslashes and the common control characters have short escapes; any other
character without a shape of its own is shown by its code.
-/

namespace ParamRules.Text

/-- A character as it stands inside quotes. -/
def quoteChar (character : Char) : List Char :=
  match character with
  | '\x00' => ['\\', '0']
  | '\t' => ['\\', 't']
  | '\n' => ['\\', 'n']
  | '\r' => ['\\', 'r']
  | '"' => ['\\', '"']
  | '\\' => ['\\', '\\']
  | _ =>
      if isShapeless character then
        ['\\', 'u', '{'] ++ Hexadecimal.digits character.toNat ++ ['}']
      else [character]

def quote (text : String) : String :=
  String.ofList ('"' :: text.toList.flatMap quoteChar ++ ['"'])

/-- A text between quotes, or that there is none. -/
def quoteOption : Option String → String
  | some text => "Some(" ++ quote text ++ ")"
  | none => "None"

def quoteList (texts : List String) : String :=
  "[" ++ ", ".intercalate (texts.map quote) ++ "]"

/-- Pairs in braces, each a quoted name and what `render` makes of its value. -/
def quotePairs {α : Type} (render : α → String) (pairs : List (String × α)) : String :=
  "\x7b" ++ ", ".intercalate (pairs.map fun pair => quote pair.1 ++ ": " ++ render pair.2) ++ "\x7d"

end ParamRules.Text
