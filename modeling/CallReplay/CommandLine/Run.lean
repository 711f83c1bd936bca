import CallReplay.CommandLine.Help
import CallReplay.Database.Opening
import CallReplay.Database.PlainFormat
import CallReplay.Json.Artifact

/-!
# Running commands

A command ends with an exit code and what it prints. The result of a command is JSON, with the
members of objects in the order of their names. The exit code is 1 if a record, the options or a
value graph is at fault, 2 if the arguments are, and 3 if a file or a database is. Of several faults
the first in this order counts: the options, the file of the record, the record, the search of the
returned value, the database, the making of the artifacts.
-/

namespace CallReplay.CommandLine

/-- How a command ends. -/
structure Report where
  exit : UInt8
  output : String
  errors : String
  deriving DecidableEq

/-- The end of a command that prints a result. -/
def Report.result (j : Json) : Report := ⟨0, j.sorted.pretty ++ "\n", ""⟩

/-- The end of a command that fails. -/
def Report.failure (exit : UInt8) (message : String) : Report := ⟨exit, "", message ++ "\n"⟩

/-- The end of a program whose arguments are no command. -/
def Report.refusal : Refusal → Report
  | .help topic => ⟨0, topic.helpText, ""⟩
  | .misuse topic => ⟨2, "", topic.misuseText⟩

/-- A name between quotes. -/
def quoted (name : String) : String := "'" ++ name ++ "'"

/-- What is said of a record that cannot be read. -/
def recordMessage (e : RecordError) : String :=
  if e.isFraming then "Error: not a valid call record frame: " ++ e.message
  else if e.isCorruption then "Error: call record data is corrupt: " ++ e.message
  else "Error: failed to decode call record: " ++ e.message

/-- The record in the bytes of a file. -/
def recordOf (bytes : List UInt8) : Except Report CallRecord :=
  (CallRecord.unpack bytes).mapError fun e => .failure 1 (recordMessage e)

/-- The options in the bytes of a configuration file. The file has to be UTF-8, and then JSON. -/
def optionsOf (path : String) (bytes : List UInt8) : Except Report RecorderOptions :=
  match Text.Utf8.decode bytes with
  | .error _ =>
    .error (.failure 3
      ("Error: failed to read config " ++ quoted path ++ ": stream did not contain valid UTF-8"))
  | .ok text =>
    (Json.decode Json.recorderOptionsFields.read text).mapError fun _ =>
      .failure 1 ("Error: invalid config " ++ quoted path)

/-- How a call ended. -/
def outcomeName (r : CallRecord) : String :=
  match r.outcome with
  | some (.returned _) => "returned"
  | some (.thrown _) => "thrown"
  | none => "pending"

/-- The description of a record. -/
def description (r : CallRecord) : Json :=
  .object [("method_name", .text r.method), ("mangled_signature", .text r.signature.full),
    ("outcome", .text (outcomeName r)), ("argument_count", .nat r.arguments.values.length),
    ("packed_argument_bytes", .nat r.packedArguments.length)]

/-- Notes remote objects in the returned value, if they are to be searched for. -/
def annotated (stem : Option String) (r : CallRecord) : Except Report CallRecord :=
  (r.annotateIf stem).mapError fun e =>
    .failure 1 ("Error: failed to scan return value: " ++ e.message)

/-- What is said of artifacts that cannot be made. -/
def scriptFailure (e : Script.ScriptError) : Report :=
  .failure 1 ("Generation error: " ++ e.message)

/-- What is said of artifacts that cannot be kept. -/
def storeFailure (e : StoreError) : Report := .failure 3 ("Storage error: " ++ e.message)

/-- What is said of a database that cannot be opened. -/
def openingFailure (name : String) (e : StoreError) : Report :=
  .failure 3 ("Error: failed to open database " ++ quoted name ++ ": " ++ e.message)

section

variable {m : Type → Type} [Monad m] (files : FileAccess m)

/-- Reads a file, or reports that it cannot be read, with what it was to be read for. -/
def readFile (what path : String) : ExceptT Report m (List UInt8) := do
  match ← (files.read (Text.Utf8.encode path) : m _) with
  | .ok bytes => pure bytes
  | .error e =>
    throw (.failure 3 ("Error: failed to read " ++ what ++ quoted path ++ ": " ++ e.message))

/-- Reads the record in a file. -/
def readRecord (path : String) : ExceptT Report m CallRecord := do
  let bytes ← readFile files "" path
  ExceptT.mk (pure (recordOf bytes))

/-- Reads the options in a configuration file. Without a file they are the default ones. -/
def readOptions : Option String → ExceptT Report m RecorderOptions
  | none => pure {}
  | some path => do
    let bytes ← readFile files "config " path
    ExceptT.mk (pure (optionsOf path bytes))

/-- Opens the database of a name, or reports why it cannot be opened. -/
def database (format : DatabaseFormat) (name : String) : ExceptT Report m OpenDatabase :=
  (OpenDatabase.ofName files format name).adapt (openingFailure name)

/-- Describes a packed record. -/
def inspect (path : String) : ExceptT Report m Report := do
  let r ← readRecord files path
  pure (.result (description r))

/-- Makes artifacts, and keeps them if a database is named. -/
def generate (format : DatabaseFormat) (g : Generation) : ExceptT Report m Report := do
  let options ← readOptions files g.config
  let read ← readRecord files g.file
  let placed := (read.withOrigin g.index g.target).withScope g.scope
  let r ← ExceptT.mk (pure (annotated g.stem placed))
  let db ← g.database.mapM (database files format)
  let a ← ExceptT.mk (pure ((Recorder.artifacts options r).mapError scriptFailure))
  if let some db := db then
    (db.deliver files format a r).adapt storeFailure
  pure (.result (Json.ofArtifacts a))

/-- Lists the artifacts of a database. -/
def list (format : DatabaseFormat) (path : String) : ExceptT Report m Report := do
  let db ← database files format path
  pure (.result (Json.listOf Json.ofSummary db.content.list))

/-- Carries out a command. -/
def perform (format : DatabaseFormat) : Command → ExceptT Report m Report
  | .inspect path => inspect files path
  | .generate g => generate files format g
  | .list path => list files format path

/-- Runs the program on its arguments, with databases in files of some format. -/
def runWith (format : DatabaseFormat) (arguments : List String) : m Report := do
  match Command.parse arguments with
  | .error refusal => pure (.refusal refusal)
  | .ok command =>
    match ← (perform files format command).run with
    | .ok report => pure report
    | .error report => pure report

/-- Runs the program on its arguments. -/
def run (arguments : List String) : m Report := runWith files .plain arguments

end

end CallReplay.CommandLine
