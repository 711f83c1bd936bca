import CallReplay.Database.SideFile
import CallReplay.Store

/-!
# Where databases are

The path of a database leads up and down by its names alone: a folder that is left again need not
exist. Its length is limited on the whole way, and the last file has to leave room for the ending of
a journal. A file is made for a database that is missing, if the name allows it; where its rights
are to be those of another file, that file has to exist even if nothing is made.
-/

namespace CallReplay

/-- The number of bytes that the path of a database may have. -/
def Storage.pathLimit : Storage → Nat
  | memory => 1024
  | shared | exclusive | unlocked | lockFiles => 512

namespace DatabaseName

/-- Whether a path of some length is too long for the database. -/
def isTooLong (n : DatabaseName) (length : Nat) : Bool :=
  length + SideFile.journal.ending.length > n.storage.pathLimit

variable {m : Type → Type} [Monad m] (files : FileAccess m)

/-- Goes on by a name on the way to a database. -/
def follow (n : DatabaseName) (error : StoreError) (path : FilePath) (name : List UInt8) :
    ExceptT StoreError m FilePath := do
  let next := path.enter name
  if name = [] ∨ name = FilePath.here ∨ name = FilePath.above then
    return next
  if next.toBytes.length ≥ n.storage.pathLimit then throw error
  match ← (files.read next.toBytes : m _) with
  | .ok _ | .error .missing | .error .isFolder => return next
  | .error _ => throw error

/-- The way to the file of a database. The root is none. -/
def locate (n : DatabaseName) (error : StoreError) : ExceptT StoreError m FilePath := do
  let start := FilePath.start (← files.workingFolder) n.path
  let path ← (Text.parts FilePath.slash n.path).foldlM (n.follow files error) start
  if path = .root ∨ n.isTooLong path.toBytes.length then throw error
  return path

/-- Looks for the file that a new file gets its rights from. -/
def checkRights (n : DatabaseName) : ExceptT StoreError m Unit := do
  if let some written := n.rightsFrom then
    if !(← (files.read written : m _)).isThere then throw .inputOutput

/-- The bytes in the file of a database, which is made if it is missing and may be made. -/
def bytesAt (n : DatabaseName) (error : StoreError) (path : FilePath) :
    ExceptT StoreError m (List UInt8) := do
  match ← (files.read path.toBytes : m _) with
  | .ok bytes => return bytes
  | .error .missing =>
    if n.mode = .create then
      if ← (files.write path.toBytes [] : m _) then
        return []
    throw error
  | .error .isFolder => throw (if n.mode = .readOnly then .inputOutput else error)
  | .error _ => throw error

end DatabaseName

end CallReplay
