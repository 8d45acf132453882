import ParamRules.Files.Name
import ParamRules.Files.ReadError

/-!
# Directory trees

A directory tree as a value: commands and fixtures can be tried on it without a file system. Paths
are followed from the top of the tree one step at a time. The tree lies in a directory of which
nothing else is known; of the root directory, only what every system has is known. Names are bytes,
as in a file system.
-/

namespace ParamRules

/-- A file, or a directory with named entries. -/
inductive FileTree where
  | file (content : ByteArray)
  | directory (entries : List (Path × FileTree))

namespace FileTree

instance : EmptyCollection FileTree := ⟨.directory []⟩

instance : Inhabited FileTree := ⟨∅⟩

/-! ## Making trees -/

def entries : FileTree → List (Path × FileTree)
  | directory entries => entries
  | file _ => []

/-- The tree with what `change` makes of the place at the end of some names, with directories on the
way there. -/
def update (tree : FileTree) (change : Option FileTree → FileTree) : List Path → FileTree
  | [] => change (some tree)
  | [name] =>
      let changed := change (tree.entries.lookup name)
      directory ((tree.entries.filter (·.1 != name)) ++ [(name, changed)])
  | name :: names =>
      let changed := ((tree.entries.lookup name).getD ∅).update change names
      directory ((tree.entries.filter (·.1 != name)) ++ [(name, changed)])

/-- Goes one step of a path from the place at the end of some names, and makes a directory where
there is nothing. Gives the tree with that directory and the names that lead to the place. -/
def enter (reached : FileTree × List Path) (step : Path) : FileTree × List Path :=
  let (tree, names) := reached
  if step = [] ∨ step = Text.bytes "." then (tree, names)
  else if step = Text.bytes ".." then (tree, names.dropLast)
  else
    let names := names ++ [step]
    (tree.update (·.getD ∅) names, names)

/-- The tree with a directory at a path, and with all directories on the way there. -/
def addDirectory (tree : FileTree) (path : Path) : FileTree :=
  ((path.splitOn '/'.toUInt8).foldl enter (tree, [])).1

/-- The tree with a file at a path, in place of any earlier one, and with all directories on the way
there. -/
def addFile (tree : FileTree) (path : Path) (content : ByteArray) : FileTree :=
  let steps := path.splitOn '/'.toUInt8
  let (tree, names) := steps.dropLast.foldl enter (tree, [])
  tree.update (fun _ => file content) (names ++ steps.getLast?.toList)

/-! ## Reading trees -/

/-- What is known of a root directory: every system has the directories `dev` and `tmp` there, and
in `dev` the empty file `null`. -/
def root : FileTree :=
  directory [
    (Text.bytes "dev", directory [(Text.bytes "null", file ByteArray.empty)]),
    (Text.bytes "tmp", ∅)]

/-- Follows steps from `here`, to which the directories `above` lead, nearest first. Above all of
those lies `outside`. -/
def follow (outside : FileTree) (above : List FileTree) (here : FileTree) :
    List Path → Except ReadError FileTree
  | [] => .ok here
  | step :: steps =>
      match here with
      | file _ => .error .notADirectory
      | directory entries =>
          if step = [] ∨ step = Text.bytes "." then follow outside above here steps
          else if step = Text.bytes ".." then
            follow outside above.tail (above.headD outside) steps
          else if 255 < step.length then .error .nameTooLong
          else match entries.lookup step with
            | none => .error .notFound
            | some there => follow outside (here :: above) there steps

def find (tree : FileTree) (path : Path) : Except ReadError FileTree :=
  if 0 ∈ path then .error .invalidName
  else if 4096 ≤ path.length then .error .nameTooLong
  else if path.head? = some '/'.toUInt8 then follow root [] root (path.splitOn '/'.toUInt8)
  else follow ∅ [] tree (path.splitOn '/'.toUInt8)

def read (tree : FileTree) (path : Path) : Except ReadError String :=
  if path = [] then .error .notFound
  else match tree.find path with
    | .error error => .error error
    | .ok (directory _) => .error .isADirectory
    | .ok (file content) =>
        match String.fromUTF8? content with
        | some text => .ok text
        | none => .error .notUtf8

def list (tree : FileTree) (path : Path) : Except ReadError (List Path) :=
  match tree.find path with
  | .error error => .error error
  | .ok (directory entries) => .ok (entries.map Prod.fst)
  | .ok (file _) => .error .notADirectory

end FileTree

end ParamRules
