import CallReplay.Store

/-!
# Formats of database files

What a file holds of a database is told by a library that is no part of this program. It comes in
as a `DatabaseFormat`: how bytes are loaded, and which bytes a file has after something has been
saved in it.
-/

namespace CallReplay

/-- How the changes of a database file are secured. -/
inductive Journal where
  /-- What is changed is copied first and put back if the change fails. -/
  | rollback
  /-- Changes are appended to a log first. -/
  | log
  deriving DecidableEq

/-- What the file of a database holds. -/
structure DatabaseFile where
  journal : Journal
  /-- What the database holds, or nothing if it has not been set up. -/
  content : Option Database
  deriving DecidableEq

/-- How databases are kept in files. -/
structure DatabaseFormat where
  /-- What the bytes of a file hold, or nothing if no database has been written to it yet. -/
  load : List UInt8 → Except StoreError (Option DatabaseFile)
  /-- The bytes of a file after a database has been saved in it, which may depend
  on those before. -/
  save : (before : List UInt8) → DatabaseFile → List UInt8

end CallReplay
