import CallReplay.Database.Recovery
import CallReplay.Database.Format

/-!
# Open databases

A database is opened under a name. When its side files are in order its changes are secured by a log
wherever one can be kept, and a database that has not been set up is set up. What is kept in its
file is loaded and saved in a `DatabaseFormat`.
-/

namespace CallReplay

/-- Where an open database is kept. -/
structure Place where
  path : FilePath
  /-- How the file says that its changes are secured. -/
  journal : Journal
  /-- How they are secured while the database is open. -/
  log : LogUse
  deriving DecidableEq

namespace Place

variable {m : Type → Type} [Monad m] (files : FileAccess m)

/-- Prepares a change. Without a log it is secured by a journal, which is gone when
it is complete. -/
def secure (p : Place) : ExceptT AccessError m Unit := do
  match p.log with
  | .readable => throw .readOnly
  | .writable => return ()
  | .unused =>
    match ← (files.read (SideFile.journal.beside p.path) : m _) with
    | .ok _ =>
      let _ ← files.remove (SideFile.journal.beside p.path)
    | .error .missing => return ()
    | .error _ => throw .noJournal

/-- Saves the content in the file. -/
def write (format : DatabaseFormat) (p : Place) (content : Option Database) :
    ExceptT AccessError m Unit := do
  let before := (← (files.read p.path.toBytes : m _)).toOption.getD []
  if !(← (files.write p.path.toBytes (format.save before ⟨p.journal, content⟩) : m _)) then
    throw .notWritten

end Place

/-- A database that is open. -/
structure OpenDatabase where
  content : Database
  isReadOnly : Bool
  /-- Nothing for a database in memory. -/
  place : Option Place
  deriving DecidableEq

namespace OpenDatabase

variable {m : Type → Type} [Monad m] (files : FileAccess m) (format : DatabaseFormat)

/-- Prepares a change. -/
def secure (db : OpenDatabase) : ExceptT AccessError m Unit := do
  if db.isReadOnly then throw .readOnly
  if let some place := db.place then place.secure files

/-- Replaces the content. -/
def replace (db : OpenDatabase) (content : Database) : ExceptT AccessError m OpenDatabase := do
  if let some place := db.place then place.write files format (some content)
  return { db with content := content }

/-- Sees to it that changes of a file are secured by a log, if that is possible. -/
def logged (n : DatabaseName) (place : Place) (content : Option Database) :
    ExceptT StoreError m Place := do
  if place.log ≠ .unused ∨ n.immutable then
    return place
  if place.journal = .log then
    return { place with log := ← (n.openLog files place.path).adapt .refused }
  if !n.usesLog then
    return place
  if n.isReadOnly then throw (.refused .readOnly)
  (place.secure files).adapt .refused
  let place := { place with journal := .log }
  (place.write files format content).adapt .refused
  return { place with log := ← (n.openLog files place.path).adapt (.setup .lookUp) }

/-- Sets up a database that may have been set up before. -/
def setUp (isReadOnly : Bool) (place : Option Place) (content : Option Database) :
    ExceptT StoreError m OpenDatabase := do
  let db : OpenDatabase := ⟨content.getD .empty, isReadOnly, place⟩
  if content.isSome then
    return db
  (db.secure files).adapt (.setup .makeTables)
  (db.replace files format .empty).adapt (.setup .finish)

/-- Opens the database of a name. -/
def ofName (text : String) : ExceptT StoreError m OpenDatabase := do
  let n ← ExceptT.mk (pure ((DatabaseName.parse text).mapError .badName))
  let error := StoreError.cannotOpen text
  if n.isTransient then
    if !n.isPlaceless && n.isTooLong n.path.length then throw error
    setUp files format n.isReadOnly none none
  else
    let path ← n.locate files error
    n.checkRights files
    let bytes ← n.bytesAt files error path
    let log ← if n.immutable then pure .unused else n.settle files path (bytes.length ≤ 1)
    let file ← ExceptT.mk (pure (format.load bytes))
    let content := file.bind DatabaseFile.content
    let place ← logged files format n ⟨path, (file.map DatabaseFile.journal).getD .rollback, log⟩
      content
    setUp files format n.isReadOnly (some place) content

/-- Keeps the artifacts of a call. -/
def deliver (db : OpenDatabase) (a : Artifacts) (r : CallRecord) : ExceptT StoreError m Unit := do
  let _ ← ExceptT.mk (pure (Database.packed r))
  (db.secure files).adapt .refused
  let content ← ExceptT.mk (pure (db.content.deliver a r))
  let _ ← (db.replace files format content).adapt .refused

end OpenDatabase

end CallReplay
