import ParamRules.Text.Bytes

/-!
# File names

The kind of a file is told by its extension: what follows the last dot of its name. A dot at the
very start of a name starts no extension.
-/

namespace ParamRules

/-- A path, or the name of a file. The system keeps it as bytes, which need not be those of a
text. -/
abbrev Path :=
  List UInt8

namespace FileName

/-- The name that a path ends in. Slashes at the end and steps that stay where they are do not
count; a path that ends in a step upwards has no name. -/
def ofPath? (path : String) : Option String :=
  match (Text.split '/' path).reverse.find? fun step => step != "" && step != "." with
  | some ".." => none
  | found => found

/-- The path of an entry of a directory. A slash goes in between unless the directory's path ends in
one or is empty. -/
def join (directory name : Path) : Path :=
  if directory = [] ∨ directory.getLast? = some '/'.toUInt8 then directory ++ name
  else directory ++ '/'.toUInt8 :: name

/-- The extension of a name, if it has one. The name is given in characters or in bytes, of which
one is the dot. -/
def extension? {α : Type} [BEq α] (dot : α) (name : List α) : Option (List α) :=
  match (name.splitOn dot).reverse with
  | extension :: before =>
      if before.isEmpty || before == [[]] then none else some extension
  | [] => none

end FileName

end ParamRules
