/-!
# Cutting and splitting text

The rule language, parameter pairs and file names are all read by cutting a text at one character.
`cut?` takes a text apart at the first occurrence of a separator and `split` at every occurrence;
neither loses or trims anything.
-/

namespace ParamRules.Text

/-- The texts before and after the first separator, if the separator occurs. -/
def cut? (separator : Char) (text : String) : Option (String × String) :=
  let before := text.toList.takeWhile (· != separator)
  match text.toList.dropWhile (· != separator) with
  | [] => none
  | _ :: after => some (String.ofList before, String.ofList after)

/-- The pieces between separators; there is one more piece than there are separators. -/
def split (separator : Char) (text : String) : List String :=
  (text.toList.splitOn separator).map String.ofList

/-- The text without the run of one character that it ends in. -/
def dropTrailing (character : Char) (text : String) : String :=
  String.ofList (text.toList.reverse.dropWhile (· == character)).reverse

def startsWith (start : String) (text : String) : Bool :=
  start.toList.isPrefixOf text.toList

/-- A text with the letters A to Z in lower case and everything else as it was. -/
def lowerAscii (text : String) : String :=
  String.ofList (text.toList.map Char.toLower)

/-- Each text followed by a line feed. -/
def lines (texts : List String) : String :=
  String.join (texts.map (· ++ "\n"))

end ParamRules.Text
