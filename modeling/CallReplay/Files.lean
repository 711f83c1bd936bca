import CallReplay.Text.Split
import CallReplay.Text.Utf8

/-!
# Files

The path of a file is written as bytes: names with slashes between them, which lead on from the
working folder or, behind a slash, from the root. The command line reads, writes and removes files
through a `FileAccess`, whatever the files are kept in. A `Folder` keeps them in memory. It holds
the files in the working folder and below. Outside of it there is no more than what every system
has: the folders above, the folders at the root, and the file `/dev/null`, which is always empty.
-/

namespace CallReplay

/-- Why a file cannot be read. -/
inductive FileError where
  | missing
  | denied
  | notFolder
  | isFolder
  | nameTooLong
  | other (text : String)
  deriving DecidableEq

/-- What the system says about a failure. -/
def FileError.message : FileError → String
  | missing => "No such file or directory (os error 2)"
  | denied => "Permission denied (os error 13)"
  | notFolder => "Not a directory (os error 20)"
  | isFolder => "Is a directory (os error 21)"
  | nameTooLong => "File name too long (os error 36)"
  | other text => text

/-- What is found where a path leads: the content of a file, or why there is none. -/
abbrev Found := Except FileError (List UInt8)

namespace Found

/-- Whether a folder was found in the place of a file. -/
def isFolder (f : Found) : Bool :=
  match f with
  | .error .isFolder => true
  | _ => false

/-- Whether anything was found. -/
def isThere (f : Found) : Bool := f.isOk || f.isFolder

/-- Whether what was found is a folder or has any bytes. -/
def isFilled (f : Found) : Bool :=
  match f with
  | .ok bytes => !bytes.isEmpty
  | .error _ => f.isFolder

end Found

/-- A way from the root down to a file or a folder. -/
structure FilePath where
  names : List (List UInt8)
  deriving DecidableEq

/-- How files are read and changed. -/
structure FileAccess (m : Type → Type) where
  /-- The way to the working folder. -/
  workingFolder : m FilePath
  /-- What a written path leads to. -/
  read : List UInt8 → m Found
  /-- Puts content into a file, and tells whether that could be done. -/
  write : List UInt8 → List UInt8 → m Bool
  /-- Removes a file, and tells whether that could be done. -/
  remove : List UInt8 → m Bool

namespace FilePath

/-- The byte between names. -/
def slash : UInt8 := 0x2F

/-- The name of the folder itself. -/
def here : List UInt8 := [0x2E]

/-- The name of the folder above. -/
def above : List UInt8 := [0x2E, 0x2E]

/-- The number of bytes that a name may have. -/
def nameLimit : Nat := 255

/-- The number of bytes that a written path stays below. -/
def writtenLimit : Nat := 4096

/-- The folder that all others are in. -/
def root : FilePath := ⟨[]⟩

/-- Where a written path starts. -/
def start (workingFolder : FilePath) (written : List UInt8) : FilePath :=
  if written.head? = some slash then root else workingFolder

/-- The way to the folder above; the root is its own. -/
def up (p : FilePath) : FilePath := ⟨p.names.dropLast⟩

/-- Goes on by a name, which may be that of the folder itself or of the folder above. -/
def enter (p : FilePath) (name : List UInt8) : FilePath :=
  if name = [] ∨ name = here then p
  else if name = above then p.up
  else ⟨p.names ++ [name]⟩

/-- The way that a written path stands for if nothing on it is missing. -/
def ofBytes (workingFolder : FilePath) (written : List UInt8) : FilePath :=
  (Text.parts slash written).foldl enter (start workingFolder written)

/-- The way that a path from the root stands for. -/
def ofText (written : String) : FilePath := ofBytes root (Text.Utf8.encode written)

/-- The path as it is written from the root. -/
def toBytes (p : FilePath) : List UInt8 :=
  if p = root then [slash] else (p.names.map (slash :: ·)).flatten

end FilePath

/-- Files in memory, each with the way to it. -/
structure Folder where
  workingFolder : FilePath
  files : List (FilePath × List UInt8)
  deriving DecidableEq

namespace Folder

/-- The working folder of files that are given by their names alone. -/
def scratch : FilePath := .ofText "/tmp/callrecords"

/-- A folder with files of the given names. -/
def ofFiles (files : List (String × List UInt8)) : Folder :=
  ⟨scratch, files.map fun (name, content) => (.ofBytes scratch (Text.Utf8.encode name), content)⟩

/-- The folders at the root that every system has. -/
def systemFolders : List FilePath :=
  ["bin", "boot", "dev", "etc", "home", "lib", "media", "mnt", "opt", "proc", "root", "run", "sbin",
    "srv", "sys", "tmp", "usr", "var"].map .ofText

/-- The file that is always empty. -/
def nullFile : FilePath := .ofText "/dev/null"

/-- Whether a path leads to a folder. -/
def isFolder (f : Folder) (path : FilePath) : Bool :=
  path.names.isPrefixOf f.workingFolder.names || systemFolders.contains path ||
    f.files.any fun file => path.names.isPrefixOf file.1.names && path != file.1

/-- The content of the file that a path leads to. -/
def file? (f : Folder) (path : FilePath) : Option (List UInt8) :=
  if path = nullFile then some [] else f.files.lookup path

/-- Goes on along a path by one name. -/
def follow (f : Folder) (path : FilePath) (name : List UInt8) : Except FileError FilePath :=
  if !f.isFolder path then
    .error (if (f.file? path).isSome then .notFolder else .missing)
  else if name.length > FilePath.nameLimit then .error .nameTooLong
  else .ok (path.enter name)

/-- The way that a written path stands for. Every name but the last has to be that of a folder. -/
def locate (f : Folder) (written : List UInt8) : Except FileError FilePath :=
  if written.isEmpty then .error .missing
  else if written.length ≥ FilePath.writtenLimit then .error .nameTooLong
  else (Text.parts FilePath.slash written).foldlM f.follow (.start f.workingFolder written)

/-- Reads the file that a path leads to. -/
def read (f : Folder) (written : List UInt8) : Found := do
  let path ← f.locate written
  if f.isFolder path then throw .isFolder
  match f.file? path with
  | some content => pure content
  | none => throw .missing

/-- The way to a file that may be changed or made. -/
def changeable? (f : Folder) (written : List UInt8) : Option FilePath :=
  match f.locate written with
  | .ok path => if f.isFolder path || path == nullFile then none else some path
  | .error _ => none

/-- The folder without a file. -/
def without (f : Folder) (path : FilePath) : Folder :=
  { f with files := f.files.filter fun file => file.1 != path }

/-- The folder with a file that has the given content. -/
def put (f : Folder) (path : FilePath) (content : List UInt8) : Folder :=
  { f.without path with files := (path, content) :: (f.without path).files }

/-- Writes the file that a path leads to, which may be new, if it can be changed there. -/
def write (f : Folder) (written content : List UInt8) : Option Folder :=
  (f.changeable? written).map fun path => f.put path content

/-- Removes the file that a path leads to, if there is one. -/
def remove (f : Folder) (written : List UInt8) : Option Folder := do
  let path ← f.changeable? written
  let _ ← f.file? path
  pure (f.without path)

/-- A change of a folder that may be impossible. -/
def attempt (change : Folder → Option Folder) : StateM Folder Bool := fun f =>
  match change f with
  | some changed => (true, changed)
  | none => (false, f)

/-- Access to the files of a folder. -/
def access : FileAccess (StateM Folder) where
  workingFolder := fun f => (f.workingFolder, f)
  read written := fun f => (f.read written, f)
  write written content := attempt fun f => f.write written content
  remove written := attempt fun f => f.remove written

end Folder

end CallReplay
