import HostProfile.Config
import HostProfile.Host.ErrorNumber

/-!
# Files of a host

The files a host is read from, as a tree with a working directory and a root. A path is followed one
part at a time: an empty part and a single point stay where they are, two points go back, and
anything that is not a directory can only be the last part. Reading a file fails for the first
reason that is met: with an error number of the operating system, which may be any where something
is there and cannot be used, because its path cannot be passed on, or because its content is no text.
-/

set_option autoImplicit false
set_option relaxedAutoImplicit false

namespace HostProfile

/-- The name of a file within its directory. -/
abbrev FileName := List UInt8

/-- What a name stands for. -/
inductive FileEntry where
  | file (content : List UInt8)
  | directory
  /-- A file or directory that is there, but any use of it fails with an error number: it may be
  forbidden, or the device it lies on may not answer. -/
  | failing (errno : Nat)
  deriving DecidableEq, Repr

/-- A tree of files: its entries under the names that lead to them. -/
structure FileTree where
  entries : List (List FileName × FileEntry)

/-- Why a file cannot be read. -/
inductive ReadError where
  /-- The operating system fails with an error number. -/
  | system (errno : Nat)
  | nulInPath
  | notUtf8
  deriving DecidableEq, Repr

namespace ReadError

/-- Nothing is at the path. -/
def notFound : ReadError := .system ErrorNumber.noSuchEntry

/-- The wording of a read error. -/
def message : ReadError → String
  | .system errno => ErrorNumber.describe errno
  | .nulInPath => "file name contained an unexpected NUL byte"
  | .notUtf8 => "stream did not contain valid UTF-8"

end ReadError

/-! ### Paths -/

namespace PathBytes

/-- The byte between the parts of a path. -/
def separator : UInt8 := 0x2F

/-- The parts of a path, between its separators. -/
def parts : PathBytes → List FileName
  | [] => [[]]
  | byte :: rest =>
    if byte = separator then [] :: parts rest
    else
      match parts rest with
      | [] => [[byte]]
      | part :: others => (byte :: part) :: others

/-- Whether a part stays where it is: it is empty or a single point. -/
def staysPut (part : FileName) : Bool :=
  part.isEmpty || part == [0x2E]

/-- Whether a part goes back. -/
def goesBack (part : FileName) : Bool :=
  part == [0x2E, 0x2E]

/-- A path followed by a relative one, with a separator between them unless the first is empty or
ends with one. -/
def join (root relative : PathBytes) : PathBytes :=
  if root.isEmpty || root.getLast? == some separator then root ++ relative
  else root ++ separator :: relative

end PathBytes

/-! ### Trees -/

namespace FileTree

/-- The tree of nothing but its top. -/
def empty : FileTree := ⟨[]⟩

/-- The entry that names lead to. -/
def find? (tree : FileTree) (location : List FileName) : Option FileEntry :=
  if location.isEmpty then some .directory
  else (tree.entries.find? (·.1 == location)).map (·.2)

/-- A tree with an entry in place of what was there. -/
def insert (tree : FileTree) (location : List FileName) (entry : FileEntry) : FileTree :=
  ⟨(location, entry) :: tree.entries.filter (·.1 != location)⟩

/-- A tree with directories along the way to a location. -/
def insertParents (tree : FileTree) (location : List FileName) : FileTree :=
  (List.range location.length).foldl (fun tree depth =>
    let parent := location.take depth
    if (tree.find? parent).isSome then tree else tree.insert parent .directory) tree

/-- The names that a path to a new entry gives. -/
def location (path : PathBytes) : List FileName :=
  (PathBytes.parts path).filter fun part => !PathBytes.staysPut part

/-- A tree with an entry at a path, and with directories along the way. -/
def put (tree : FileTree) (path : PathBytes) (entry : FileEntry) : FileTree :=
  (tree.insertParents (location path)).insert (location path) entry

/-- A tree without the entry at a path. -/
def remove (tree : FileTree) (path : PathBytes) : FileTree :=
  ⟨tree.entries.filter (·.1 != location path)⟩

/-- Follows parts of a path from an entry. -/
def follow (tree : FileTree) : List FileName → FileEntry → List FileName →
    Except ReadError FileEntry
  | _, entry, [] => .ok entry
  | _, .file _, _ :: _ => .error (.system ErrorNumber.notDirectory)
  | _, .failing errno, _ :: _ => .error (.system errno)
  | location, .directory, part :: rest =>
    if PathBytes.staysPut part then tree.follow location .directory rest
    else if PathBytes.goesBack part then tree.follow location.dropLast .directory rest
    else if 255 < part.length then .error (.system ErrorNumber.nameTooLong)
    else
      match tree.find? (location ++ [part]) with
      | none => .error .notFound
      | some entry => tree.follow (location ++ [part]) entry rest

end FileTree

/-- The files of a host. -/
structure Files where
  /-- What relative paths start from. -/
  working : FileTree
  /-- What absolute paths start from. -/
  root : FileTree

namespace Files

/-- The entry at a path. -/
def lookup (files : Files) (path : PathBytes) : Except ReadError FileEntry :=
  if path.contains 0 then .error .nulInPath
  else if path.isEmpty then .error .notFound
  else if 4096 ≤ path.length then .error (.system ErrorNumber.nameTooLong)
  else
    let tree := if path.head? = some PathBytes.separator then files.root else files.working
    tree.follow [] .directory (PathBytes.parts path)

/-- The content of the file at a path. -/
def read (files : Files) (path : PathBytes) : Except ReadError (List UInt8) := do
  match ← files.lookup path with
  | .file content => return content
  | .directory => throw (.system ErrorNumber.isDirectory)
  | .failing errno => throw (.system errno)

/-- The text of the file at a path, which has to be UTF-8. -/
def readText (files : Files) (path : PathBytes) : Except ReadError String := do
  match Text.decode? (← files.read path) with
  | some text => return text
  | none => throw .notUtf8

end Files

end HostProfile
