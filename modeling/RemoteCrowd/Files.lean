import RemoteCrowd.Bytes

/-!
The files that a server can be asked to load, as a value. Paths are relative to the working
directory, and a path leads from directory to directory one name at a time.
-/

namespace RemoteCrowd

/-- What a path leads to. -/
inductive FileContent where
  | file (bytes : Bytes)
  | directory
deriving DecidableEq, Inhabited

/-- Why a file has no text. -/
inductive FileFault where
  | missing
  | notDirectory
  | isDirectory
  | nameTooLong
  | nulInName
  | notUtf8
deriving DecidableEq, Inhabited

def FileFault.message : FileFault → String
  | missing => "No such file or directory (os error 2)"
  | notDirectory => "Not a directory (os error 20)"
  | isDirectory => "Is a directory (os error 21)"
  | nameTooLong => "File name too long (os error 36)"
  | nulInName => "file name contained an unexpected NUL byte"
  | notUtf8 => "stream did not contain valid UTF-8"

/-- Files and directories by the names that lead to them from the working directory. -/
structure Files where
  entries : List (List String × FileContent) := []
deriving DecidableEq, Inhabited

namespace Files

/-- The place that one more name leads to. -/
def enter (place : List String) (name : String) : List String :=
  if name = "" ∨ name = "." then place
  else if name = ".." then
    match place.getLast? with
    | none | some ".." => place ++ [".."]
    | some "/" => place
    | some _ => place.dropLast
  else place ++ [name]

/-- The place where a path starts, and the names in it. -/
def route (path : String) : List String × List String :=
  match path.splitOn "/" with
  | "" :: names => (["/"], names)
  | names => ([], names)

/-- The places that names lead to from a place, one after another. -/
def passed (place : List String) : List String → List (List String)
  | [] => []
  | name :: rest => enter place name :: passed (enter place name) rest

/-- What stands at the end of a path, and the directories on the way there. -/
def along (path : String) (content : FileContent) : List (List String × FileContent) :=
  match (passed (route path).1 (route path).2).reverse with
  | [] => []
  | last :: before => (last, content) :: before.map fun place => (place, .directory)

/-- Files and directories by path. Of two contents for one place the later one counts. -/
def ofPaths (contents : List (String × FileContent)) : Files :=
  ⟨contents.reverse.flatMap fun (path, content) => along path content⟩

/-- What is found at a place. The working directory and every directory above it are
there in any case. -/
def find? (files : Files) (place : List String) : Option FileContent :=
  match files.entries.find? fun entry => entry.1 == place with
  | some (_, content) => some content
  | none =>
    if place.all fun name => name = ".." ∨ name = "/" then some .directory else none

/-- The most bytes in one name of a path. -/
def maxName : Nat := 255

/-- The most bytes in a path. -/
def maxPath : Nat := 4095

/-- Follow names from a place. -/
private def follow (files : Files) : List String → List String → Except FileFault FileContent
  | place, [] =>
    match files.find? place with
    | some content => .ok content
    | none => .error .missing
  | place, name :: rest =>
    match files.find? place with
    | none => .error .missing
    | some (.file _) => .error .notDirectory
    | some .directory =>
      if maxName < name.utf8ByteSize then .error .nameTooLong
      else follow files (enter place name) rest

/-- What a path leads to. -/
def lookup (files : Files) (path : String) : Except FileFault FileContent :=
  if path = "" then .error .missing
  else if path.toList.contains '\x00' then .error .nulInName
  else if maxPath < path.utf8ByteSize then .error .nameTooLong
  else follow files (route path).1 (route path).2

/-- The text of a file. -/
def readText (files : Files) (path : String) : Except FileFault String := do
  match ← files.lookup path with
  | .directory => throw .isDirectory
  | .file bytes =>
    match String.fromUTF8? ⟨bytes.toArray⟩ with
    | some text => return text
    | none => throw .notUtf8

end Files

end RemoteCrowd
