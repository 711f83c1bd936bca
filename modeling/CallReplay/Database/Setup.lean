/-!
# Setting up databases

When a database is opened it is looked up whether its tables are there, and if not they are made by
statements. A database that may only be read, or whose changes cannot be secured, cannot be set up.
The report of that quotes the statements.
-/

namespace CallReplay

/-- Why a database cannot be used or changed. -/
inductive AccessError where
  /-- The database may only be read. -/
  | readOnly
  /-- A file that secures its changes cannot be opened. -/
  | noJournal
  /-- Another program has locked the database. -/
  | locked
  /-- The index of its log is out of date, and may not be renewed. -/
  | staleIndex
  /-- A change cannot be written to its file. -/
  | notWritten
  deriving DecidableEq

/-- What is reported about a database that cannot be set up or changed. -/
def AccessError.message : AccessError → String
  | readOnly => "attempt to write a readonly database"
  | noJournal => "unable to open database file"
  | locked => "database is locked"
  | staleIndex => "locking protocol"
  | notWritten => "disk I/O error"

/-- The name and the number of the error. -/
def AccessError.code : AccessError → String × Nat
  | readOnly => ("ReadOnly", 8)
  | noJournal => ("CannotOpen", 14)
  | locked => ("DatabaseBusy", 5)
  | staleIndex => ("FileLockingProtocolFailed", 15)
  | notWritten => ("SystemIoFailure", 1034)

/-- The error as it is reported where a new database is set up. -/
def AccessError.detail (e : AccessError) : String :=
  "SqliteFailure(Error \x7b code: " ++ e.code.1 ++ ", extended_code: " ++
    toString e.code.2 ++ " \x7d, Some(\"" ++ e.message ++ "\"))"

/-- The statements that set up a new database, in lines. -/
def setupStatements : List String :=
  [
    "CREATE TABLE samplers (",
    "    id TEXT PRIMARY KEY NOT NULL,",
    "    name TEXT NOT NULL,",
    "    call_index INTEGER NOT NULL,",
    "    target TEXT NOT NULL,",
    "    method_name TEXT NOT NULL,",
    "    mangled_signature TEXT NOT NULL,",
    "    arguments_script TEXT NOT NULL,",
    "    record BLOB",
    ");",
    "",
    "CREATE INDEX idx_samplers_call_index ON samplers(call_index);",
    "",
    "CREATE TABLE post_processors (",
    "    id TEXT PRIMARY KEY NOT NULL,",
    "    sampler_id TEXT NOT NULL REFERENCES samplers(id) ON DELETE CASCADE,",
    "    name TEXT NOT NULL,",
    "    script TEXT NOT NULL,",
    "    reset_interpreter INTEGER NOT NULL",
    ");",
    "",
    "CREATE INDEX idx_post_processors_sampler ON post_processors(sampler_id);",
    ""
  ]

/-- A step on the way to a database that is set up. -/
inductive SetupStep where
  /-- It is looked up whether the tables are there. -/
  | lookUp
  /-- The tables are made. -/
  | makeTables
  /-- What has been made is written. -/
  | finish
  deriving DecidableEq

/-- The statements of a step that are quoted if it fails. -/
def SetupStep.quotedStatements : SetupStep → List String
  | lookUp | finish => []
  | makeTables => setupStatements

/-- What is said of a database that cannot be set up. -/
def SetupStep.failureMessage (step : SetupStep) (e : AccessError) : String :=
  "migration error: rusqlite_migrate error: RusqliteError \x7b query: \"" ++
    "\\n".intercalate step.quotedStatements ++ "\", err: " ++ e.detail ++ " \x7d"

end CallReplay
