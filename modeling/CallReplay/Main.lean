import CallReplay.CommandLine.Run

/-!
The command line program: it gives the commands access to the files of the system and prints
what they report.
-/

open CallReplay

/-- The number of an error of the system, which may be reported with its sign changed. -/
def errorNumber (code : UInt32) : UInt32 := min code (0 - code)

/-- Why the system refuses to read a file. -/
def fileError : IO.Error → FileError
  | .noFileOrDirectory .. => .missing
  | .permissionDenied .. => .denied
  | .inappropriateType _ code text =>
    match errorNumber code with
    | 20 => .notFolder
    | 21 => .isFolder
    | _ => .other text
  | .invalidArgument _ code text => if errorNumber code = 36 then .nameTooLong else .other text
  | e => .other (toString e)

/-- Access to the files of the system. -/
def systemFiles : FileAccess IO where
  workingFolder := do
    pure (.ofText (← IO.currentDir).toString)
  read path := do
    match ← (IO.FS.readBinFile (Text.Utf8.lossy path)).toBaseIO with
    | .ok content => pure (.ok content.toList)
    | .error e => pure (.error (fileError e))
  write path content := do
    match ← (IO.FS.writeBinFile (Text.Utf8.lossy path) ⟨content.toArray⟩).toBaseIO with
    | .ok () => pure true
    | .error _ => pure false
  remove path := do
    match ← (IO.FS.removeFile (Text.Utf8.lossy path)).toBaseIO with
    | .ok () => pure true
    | .error _ => pure false

/-- Runs a command. -/
def main (arguments : List String) : IO UInt32 := do
  let report ← CommandLine.run systemFiles arguments
  IO.print report.output
  IO.eprint report.errors
  pure report.exit.toUInt32
