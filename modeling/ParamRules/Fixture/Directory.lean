import ParamRules.Files.Name
import ParamRules.Files.ReadError
import ParamRules.Fixture.Basic

/-!
# Directories of fixtures

The fixtures of a directory are those of its files with the extension `yaml` or `yml`, in order of
file name and, within a file, in order of document. They are loaded all or nothing: the first file
in that order that cannot be read or has a document that is no fixture is the reason why none are.

How a file is read, how its text is cut into documents and how a document is understood is given
from outside, and so are the names of the directory's entries, in any order.
-/

namespace ParamRules

/-- Why the fixtures of a directory cannot be loaded. -/
inductive LoadError where
  | unreadable (path : Path) (cause : ReadError)
  /-- A document of a file is no fixture, in the words of the decoder. -/
  | malformed (path : Path) (cause : String)
deriving DecidableEq

def LoadError.message : LoadError → String
  | unreadable path cause => "failed to read \"" ++ Text.ofBytes path ++ "\": " ++ cause.message
  | malformed path cause => "failed to parse \"" ++ Text.ofBytes path ++ "\": " ++ cause

namespace Fixture

def isFixtureFile (name : Path) : Bool :=
  let extension := FileName.extension? '.'.toUInt8 name
  extension == some (Text.bytes "yaml") || extension == some (Text.bytes "yml")

section

variable {Document : Type} (read : Path → Except ReadError String)
variable (documents : String → List Document) (decode : Document → Except String Fixture)

/-- The fixtures of a text, one for each document. -/
def ofText (text : String) : Except String (List Fixture) :=
  (documents text).mapM decode

def loadFile (path : Path) : Except LoadError (List Fixture) := do
  let text ← (read path).mapError (.unreadable path)
  (ofText documents decode text).mapError (.malformed path)

/-- Loads the fixtures of a directory whose entries have been listed. -/
def loadDirectory (directory : Path) (names : List Path) : Except LoadError (List Fixture) := do
  let files := (names.filter isFixtureFile).mergeSort fun left right => decide (left ≤ right)
  let fixtures ← files.mapM fun name =>
    loadFile read documents decode (FileName.join directory name)
  return fixtures.flatten

def load (list : Path → Except ReadError (List Path)) (directory : Path) :
    Except LoadError (List Fixture) := do
  let names ← (list directory).mapError (.unreadable directory)
  loadDirectory read documents decode directory names

end

end Fixture

end ParamRules
