import TextTemplate.Text.Segments

/-!
# Files

The files that a loader sees: a tree of directories, each entry under its absolute path. A path is a
list of names; relative paths are resolved name by name, so `..` leaves a directory again, but only
one that exists.
-/

namespace TextTemplate

/-- The names from the root of the tree down to an entry. -/
abbrev Path := List String

structure File where
  /-- The text of the file, none if its bytes are not valid text. -/
  text : Option String
  /-- The modification time in seconds. -/
  modified : Int
deriving DecidableEq, Repr

inductive FileEntry where
  | directory
  | file (file : File)
deriving DecidableEq, Repr

/-- A file with the given bytes. -/
def File.ofBytes (bytes : ByteArray) (modified : Int) : File := ⟨String.fromUTF8? bytes, modified⟩

/-- The entries of a file tree; the root of the tree is a directory and has no entry. -/
structure FileSystem where
  entries : List (Path × FileEntry)

namespace FileSystem

def empty : FileSystem := ⟨[]⟩

/-- The entry at a path. -/
def find? (fs : FileSystem) (path : Path) : Option FileEntry :=
  if path = [] then some .directory
  else (fs.entries.find? (·.1 == path)).map (·.2)

def isDirectory (fs : FileSystem) (path : Path) : Bool := fs.find? path == some .directory

/-- Removes the entry at a path and everything below it. -/
def remove (fs : FileSystem) (path : Path) : FileSystem :=
  ⟨fs.entries.filter fun (other, _) => !path.isPrefixOf other⟩

/-- Puts an entry at a path in place of any other. -/
def put (fs : FileSystem) (path : Path) (entry : FileEntry) : FileSystem :=
  ⟨(path, entry) :: (fs.remove path).entries⟩

/-- Makes a directory and those above it. -/
def makeDirectory (fs : FileSystem) (path : Path) : FileSystem :=
  (List.range path.length).foldl (fun fs n =>
    let above := path.take (n + 1)
    if (fs.find? above).isSome then fs else fs.put above .directory) fs

/-- Writes a file and makes the directories above it. -/
def write (fs : FileSystem) (path : Path) (file : File) : FileSystem :=
  (fs.makeDirectory path.dropLast).put path (.file file)

/-- Follows names from a path on. Every name needs a directory to be followed from. -/
def resolve? (fs : FileSystem) (path : Path) : List String → Option Path
  | [] => if (fs.find? path).isSome then some path else none
  | name :: names =>
    if !fs.isDirectory path then none
    else if name = "" || name = "." then fs.resolve? path names
    else if name = ".." then fs.resolve? path.dropLast names
    else fs.resolve? (path ++ [name]) names

/-- Whether a name starts at the root of the tree. -/
def isAbsolute (name : String) : Bool := name.toList.head? == some '/'

/-- The file that a name leads to from a root directory; a name with a leading slash starts at the
root of the tree. -/
def lookUp? (fs : FileSystem) (root : Path) (name : String) : Option File :=
  let start := if isAbsolute name then [] else root
  match (fs.resolve? start (Text.segmentsOf '/' name)).bind fs.find? with
  | some (.file file) => some file
  | _ => none

/-- The text of the path of a name under a root directory. -/
def pathText (root : Path) (name : String) : String :=
  if isAbsolute name then name else "/" ++ "/".intercalate root ++ "/" ++ name

end FileSystem

end TextTemplate
