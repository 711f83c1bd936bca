import CallReplay.Database.Location

/-!
# Recovery of databases

What lies beside the file of a database when it is opened may have been left behind. A journal that
is not finished is put back and removed. A log is used where there is one. It belongs to the
database for as long as that is open, and goes with its index when the database is closed by a
program that may change it. No journal and no log that is found holds anything for the file, since
every change is complete when a program ends.
-/

namespace CallReplay

/-- How the log of an open database is used. -/
inductive LogUse where
  /-- There is none, and changes are secured by a journal. -/
  | unused
  /-- The database can be read, but not changed. -/
  | readable
  /-- Changes are written to the log. -/
  | writable
  deriving DecidableEq

namespace DatabaseName

/-- Whether a journal that is found is removed. Beside a database that has not been written yet it
means nothing. Else it has to be put back, unless it is finished and begins with a zero byte. -/
def dropsJournal (n : DatabaseName) (isBlank : Bool) (journal : Found) : Except StoreError Bool :=
  if !journal.isFilled then .ok false
  else if isBlank then .ok n.canReserve
  else
    match journal with
    | .error _ => .error .inputOutput
    | .ok bytes =>
      if bytes.head? = some 0 then .ok false
      else if n.isReadOnly then .error (.refused .readOnly)
      else .ok true

variable {m : Type → Type} [Monad m] (files : FileAccess m)

/-- Locks a database that is locked by another file. -/
def lock (n : DatabaseName) (path : FilePath) : ExceptT StoreError m Unit := do
  if n.usesLockFile then
    match ← (files.read (SideFile.lock.beside path) : m _) with
    | .error .missing => return ()
    | found => throw (if found.isThere then .refused .locked else .inputOutput)

/-- Whether a journal counts. It does not while a lock says that it is in use. -/
def heedsJournal (n : DatabaseName) (path : FilePath) : m Bool := do
  if n.storage ≠ .lockFiles then return true
  if !n.lockless then return false
  return !(← files.read (SideFile.lock.beside path)).isThere

/-- Puts back what a journal holds, and removes it. -/
def recover (n : DatabaseName) (path : FilePath) (isBlank : Bool) : ExceptT StoreError m Unit := do
  if ← (n.heedsJournal files path : m _) then
    let journal ← files.read (SideFile.journal.beside path)
    if ← ExceptT.mk (pure (n.dropsJournal isBlank journal)) then
      let _ ← files.remove (SideFile.journal.beside path)

/-- The content of the log of a database, which is made if it is missing. -/
def logOf (path : FilePath) : ExceptT AccessError m (List UInt8) := do
  match ← (files.read (SideFile.log.beside path) : m _) with
  | .ok bytes => return bytes
  | .error .missing =>
    if ← (files.write (SideFile.log.beside path) [] : m _) then
      return []
    throw .noJournal
  | .error _ => throw .noJournal

/-- Starts to use the log of a database. What goes when the database is closed is removed at once,
since nobody else looks for it before. -/
def openLog (n : DatabaseName) (path : FilePath) : ExceptT AccessError m LogUse := do
  if !n.usesLog then throw .noJournal
  let log ← logOf files path
  let index ← files.read (SideFile.index.beside path)
  if n.filesIndex && (n.readsIndex || index.isFolder) then
    if !index.isThere then throw .noJournal
    if !fitsEmptyIndex log then throw .staleIndex
    return .readable
  if n.isReadOnly then
    if !(← (files.write (SideFile.index.beside path) emptyIndex : m _)) then throw .noJournal
    return .readable
  let _ ← files.remove (SideFile.log.beside path)
  if n.filesIndex then
    let _ ← files.remove (SideFile.index.beside path)
  return .writable

/-- Gets the side files of a database into order. -/
def settle (n : DatabaseName) (path : FilePath) (isBlank : Bool) : ExceptT StoreError m LogUse := do
  n.lock files path
  n.recover files path isBlank
  let log ← files.read (SideFile.log.beside path)
  if !log.isFilled then
    return .unused
  if isBlank then
    if !(← (files.remove (SideFile.log.beside path) : m _)) then throw .inputOutput
    return .unused
  (n.openLog files path).adapt .refused

end DatabaseName

end CallReplay
