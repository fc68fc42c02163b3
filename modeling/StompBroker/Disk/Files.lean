import StompBroker.Failure
import StompBroker.Text.Split
import StompBroker.Text.Utf8

/-!
# Files and folders

A `Files` holds plain files and folders by their paths. A path is the list of its names; empty names
and single dots stand for nothing. `Files.makeFolder` makes a folder and the folders around it, and
fails where a plain file is in the way.
-/

set_option autoImplicit false

namespace StompBroker

/-- The names that lead to a file or a folder. -/
abbrev Path := List String

/-- The names in the text of a path. -/
def Path.ofText (text : String) : Path :=
  (Text.split '/' text).filter fun name ↦ !name.isEmpty && name != "."

/-- The text of a path. -/
def Path.text (path : Path) : String := "/".intercalate path

/-- Characters from the back of a path without the slashes, and the dots that stand for nothing. -/
def Path.withoutEnding : List Char → List Char
  | '/' :: rest => if rest.isEmpty then ['/'] else Path.withoutEnding rest
  | '.' :: '/' :: rest => if rest.isEmpty then ['/'] else Path.withoutEnding rest
  | rest => rest

/-- The text of the folder that something is in. -/
def Path.folderText (text : String) : String :=
  let inner := Path.withoutEnding text.toList.reverse
  String.ofList (Path.withoutEnding (inner.dropWhile (· != '/'))).reverse

/-- Why a folder cannot be made. -/
inductive FolderProblem where
  /-- There is a plain file of that name. -/
  | taken
  /-- One of the folders around it is a plain file. -/
  | insideFile
  deriving DecidableEq, Repr

/-- The wording of the problem. -/
def FolderProblem.message : FolderProblem → String
  | taken => "File exists (os error 17)"
  | insideFile => "Not a directory (os error 20)"

/-- Plain files and folders. -/
structure Files where
  plain : List (Path × Bytes) := []
  folders : List Path := []
  deriving Repr

namespace Files

/-- What is in a plain file. -/
def content? (files : Files) (path : Path) : Option Bytes := files.plain.lookup path

/-- There is a plain file. -/
def isPlain (files : Files) (path : Path) : Bool := (files.content? path).isSome

/-- The folders around a file, the outermost first. -/
def around (path : Path) : List Path :=
  (List.range path.length).filterMap fun depth ↦ if depth = 0 then none else some (path.take depth)

/-- The same with a folder, unless it is there. -/
def addFolder (files : Files) (path : Path) : Files :=
  if files.folders.contains path then files else { files with folders := files.folders ++ [path] }

/-- There is a folder. -/
def isFolder (files : Files) (path : Path) : Bool := path.isEmpty || files.folders.contains path

/-- Makes a folder and the folders around it. -/
def makeFolder (files : Files) (path : Path) : Except FolderProblem Files :=
  if files.isPlain path then .error .taken
  else if (around path).any files.isPlain then .error .insideFile
  else .ok ((around path ++ [path]).foldl addFolder files)

/-- Puts a plain file into the folder that is there for it, unless there is such a file. -/
def touch (files : Files) (path : Path) : Files :=
  if files.isPlain path then files else { files with plain := files.plain ++ [(path, [])] }

/-- The names of all plain files, in their order. -/
def names (files : Files) : List String :=
  (files.plain.map fun file ↦ Path.text file.1).mergeSort (· ≤ ·)

/-- Files given from outside, with the folders around them. -/
def ofList (given : List (String × Bytes)) : Files :=
  given.foldl (fun files (name, content) ↦
    let path := Path.ofText name
    { (around path).foldl addFolder files with
      plain := files.plain ++ [(path, content)] }) {}

end Files

end StompBroker
