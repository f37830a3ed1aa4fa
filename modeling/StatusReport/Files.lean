import StatusReport.Text.Lines
import StatusReport.Text.Utf8

/-! # Files

Commands read files by their paths. `Environment` is all that a command sees of the world around
it; a `Directory` is such a world that is known in advance.

* `ReadError`: why a file cannot be read.
* `Environment.readText`: the text of a file.
* `Path.extension?`: what follows the last dot of a file name.
* `Directory.read`: a file in a tree of directories.
-/

namespace StatusReport

open Text (Bytes)

/-! ## Reading -/

inductive ReadError where
  | notFound
  | notADirectory
  | isADirectory
  /-- The path holds a character that no name has. -/
  | badPath
  | notText
  | other (message : String)
deriving DecidableEq, Repr

def ReadError.message : ReadError → String
  | .notFound => "No such file or directory (os error 2)"
  | .notADirectory => "Not a directory (os error 20)"
  | .isADirectory => "Is a directory (os error 21)"
  | .badPath => "file name contained an unexpected NUL byte"
  | .notText => "stream did not contain valid UTF-8"
  | .other message => message

def textOfBytes (bytes : Bytes) : Except ReadError String :=
  match Text.Utf8.decode? bytes with
  | some cs => .ok (.ofList cs)
  | none => .error .notText

/-- What a command sees of the world around it. -/
structure Environment where
  /-- What a path leads to. -/
  file : String → Except ReadError Bytes
  input : Bytes := []
  /-- Where settings are looked for, the nearest place first. -/
  settingsPaths : List String := []
  color : Bool := false

namespace Environment

def readText (env : Environment) (path : String) : Except ReadError String :=
  match env.file path with
  | .error e => .error e
  | .ok bytes => textOfBytes bytes

def inputText (env : Environment) : Except ReadError String := textOfBytes env.input

end Environment

/-! ## Paths -/

namespace Path

def names (path : String) : List String := (Text.splitOn '/' path.toList).map String.ofList

def isAbsolute (path : String) : Bool := path.toList.head? = some '/'

def isHere (name : String) : Bool := name = "" || name = "."

/-- Whether a path is the single dash that stands for the standard input. -/
def isStandardInput (path : String) : Bool :=
  match names path with
  | first :: rest => first = "-" && rest.all isHere
  | [] => false

/-- What follows the last dot of the last name, unless that dot starts the name. -/
def extension? (path : String) : Option String :=
  let name := ((names path).getLastD "").toList
  match (Text.splitOn '.' name).reverse with
  | last :: before :: rest => if before.isEmpty && rest.isEmpty then none else some (.ofList last)
  | _ => none

end Path

/-! ## Trees of directories -/

inductive Directory.Entry where
  | file (bytes : Bytes)
  | directory (entries : List (String × Directory.Entry))

abbrev Directory := List (String × Directory.Entry)

namespace Directory

/-- A place in a tree: the directory there, and those around it, the nearest first. -/
structure Place where
  here : Directory
  around : List Directory := []

def Place.up (p : Place) : Place :=
  match p.around with
  | [] => p
  | above :: rest => ⟨above, rest⟩

/-- What the names of a path lead to. Only directories lead on. -/
def lookup (p : Place) : List String → Except ReadError Entry
  | [] => .ok (.directory p.here)
  | name :: rest =>
    if Path.isHere name then lookup p rest
    else if name = ".." then lookup p.up rest
    else
      match List.lookup name p.here with
      | none => .error .notFound
      | some (.directory entries) => lookup ⟨entries, p.here :: p.around⟩ rest
      | some (.file bytes) => if rest.isEmpty then .ok (.file bytes) else .error .notADirectory

def Place.root (p : Place) : Place := ⟨(p.around.getLast?).getD p.here, []⟩

def read (p : Place) (path : String) : Except ReadError Bytes :=
  if path.toList.contains '\x00' then .error .badPath
  else if path = "" then .error .notFound
  else
    match lookup (if Path.isAbsolute path then p.root else p) (Path.names path) with
    | .error e => .error e
    | .ok (.file bytes) => .ok bytes
    | .ok (.directory _) => .error .isADirectory

/-- Puts an entry at the end of names, making directories on the way. -/
def insert (e : Entry) : List String → Directory → Directory
  | [], d => d
  | [name], d => (name, e) :: d.filter (·.1 ≠ name)
  | name :: rest, d =>
    let inner := match List.lookup name d with
      | some (.directory entries) => entries
      | _ => []
    (name, .directory (insert e rest inner)) :: d.filter (·.1 ≠ name)

end Directory

end StatusReport
