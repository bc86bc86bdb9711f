import Stackline.Source
import Stackline.Event

/-!
# File trees

The files and directories below a working directory, and what opening a path among them gives. A
path is followed one name after the other; every name but the last has to be a directory's. A
directory can be opened, but reading it fails.
-/

namespace Stackline

open Text

/-- The bytes of a name, or of a path. -/
abbrev PathBytes := List UInt8

/-- Why a path cannot be opened. -/
inductive OpenFailure where
  /-- Nothing has that name. -/
  | notFound
  /-- The path goes on behind something that is no directory. -/
  | notDirectory
  /-- The path, or a name in it, is too long. -/
  | nameTooLong
  /-- The path holds a zero byte. -/
  | zeroByte
  /-- The system gives another reason. -/
  | other (reason : String)
deriving DecidableEq, Repr

/-- The wording of an open failure. -/
def OpenFailure.message : OpenFailure → String
  | notFound => "No such file or directory (os error 2)"
  | notDirectory => "Not a directory (os error 20)"
  | nameTooLong => "File name too long (os error 36)"
  | zeroByte => "file name contained an unexpected NUL byte"
  | other reason => reason

/-- What a name stands for. -/
inductive Node where
  /-- A file with its content. -/
  | file (content : List UInt8)
  /-- A directory. -/
  | directory
deriving DecidableEq, Repr

/-- The files and directories below a working directory. -/
structure FileTree where
  /-- For every file and directory the names that lead to it, and what it is. Of two entries for the
  same names the first one counts. -/
  entries : List (List PathBytes × Node)

namespace FileTree

/-- The tree without files. -/
def empty : FileTree :=
  { entries := [] }

/-- The byte between the names of a path. -/
def separator : UInt8 := 0x2F

/-- The names that a path consists of. Separators in a row leave empty names between them. -/
def names (path : PathBytes) : List PathBytes :=
  path.splitOn separator

/-- The name that a directory has for itself. -/
def selfName : PathBytes := Utf8.encode ['.']

/-- The name that a directory has for the directory that holds it. -/
def parentName : PathBytes := Utf8.encode ['.', '.']

/-- How many bytes a name may have. -/
def maxName : Nat := 255

/-- How many bytes a path may have. -/
def maxPath : Nat := 4095

/-- The tree with one more file or directory, which the path leads to. -/
def insert (tree : FileTree) (path : PathBytes) (node : Node) : FileTree :=
  { entries := ((names path).filter fun name => name ≠ [] ∧ name ≠ selfName, node) :: tree.entries }

/-- What names lead to. The directories that lead to something are there with it. -/
def node? (tree : FileTree) (path : List PathBytes) : Option Node :=
  match tree.entries.find? fun entry => entry.1 = path with
  | some (_, node) => some node
  | none => if tree.entries.any fun entry => path.isPrefixOf entry.1 then some .directory else none

/-- Where a path has led so far: down from the working directory, or out of it. -/
inductive Place where
  /-- A directory below the working directory, or that directory itself. -/
  | below (path : List PathBytes)
  /-- A directory outside. -/
  | outside
deriving DecidableEq, Repr

/-- The directory that holds another one. -/
def Place.parent : Place → Place
  | below [] => outside
  | below path => below path.dropLast
  | outside => outside

/-- What a name stands for in a directory. Nothing is known to be outside. -/
def child? (tree : FileTree) (place : Place) (name : PathBytes) : Option (Node × Place) :=
  match place with
  | .below path => (tree.node? (path ++ [name])).map fun node => (node, .below (path ++ [name]))
  | .outside => none

/-- What an opened file or directory gives to read. -/
def Node.feed : Node → Feed
  | .file content => [.bytes content]
  | .directory => [.failure "Is a directory (os error 21)"]

/-- Follows names from a directory. -/
def follow (tree : FileTree) (place : Place) : List PathBytes → Except OpenFailure Node
  | [] => .ok .directory
  | name :: rest =>
    if name = [] ∨ name = selfName then tree.follow place rest
    else if name = parentName then tree.follow place.parent rest
    else if maxName < name.length then .error .nameTooLong
    else match tree.child? place name with
      | none => .error .notFound
      | some (.directory, inner) => tree.follow inner rest
      -- A separator behind the name of a file asks for a directory, even with no name after it.
      | some (.file content, _) => if rest = [] then .ok (.file content) else .error .notDirectory

/-- Opens a path: what it gives to read, or why it cannot be opened. -/
def open? (tree : FileTree) (path : PathBytes) : Except OpenFailure Feed :=
  if 0 ∈ path then .error .zeroByte
  else if path = [] then .error .notFound
  else if maxPath < path.length then .error .nameTooLong
  else
    let place := if path.head? = some separator then .outside else .below []
    (tree.follow place (names path)).map Node.feed

end FileTree

/-- How a path is shown. -/
def shownPath (path : PathBytes) : String :=
  String.ofList (Utf8.decode path)

/-- Opens a program file, given what opening its path gives, and lets the observer know. -/
def Source.ofFile (path : PathBytes) (opened : Except OpenFailure Feed) :
    Except SourceError Source × List Event :=
  match opened with
  | .ok feed => (.ok (Source.ofFeed feed), [.fileOpened (shownPath path)])
  | .error failure =>
    (.error (.unopened (shownPath path)), [.openFailed (shownPath path) failure.message])

end Stackline
